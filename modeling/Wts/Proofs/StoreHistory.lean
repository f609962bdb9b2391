/-
Module: Wts.Proofs.StoreHistory
Purpose: The histories of the store over whole runs: every workspace is created once, a removed one
  stays removed and frozen, and the board is the replay of its log.
Trusted boundary: none
Main exports: removal_final, board_logged, created_once
-/
import Wts.Proofs.StoreEffects

namespace Wts.Store

open Workspace List

variable {store : WorkspaceStore} {env : CallEnv} {tables written : Tables} {workspaceId : Uuid}

/-! ### The log of creations -/

def createdIds (tables : Tables) : List Uuid :=
  tables.createdEvents.map CreatedEvent.workspaceId

/-- Exactly these workspaces have rows, one in each table. -/
structure RowsOf (ids : List Uuid) (tables : Tables) : Prop where
  projection : ∀ id : Uuid, (tables.projection[id]?).isSome ↔ id ∈ ids
  lifecycle : ∀ id : Uuid, (tables.lifecycle[id]?).isSome ↔ id ∈ ids
  workflow : ∀ id : Uuid, (tables.workflow[id]?).isSome ↔ id ∈ ids
  placement : ∀ id : Uuid, (tables.placement[id]?).isSome ↔ id ∈ ids

theorem isSome_insert_iff {β : Type} {rows : Std.ExtTreeMap Uuid β} {row : β} {id other : Uuid} :
    ((rows.insert id row)[other]?).isSome ↔ other = id ∨ (rows[other]?).isSome := by
  by_cases same : other = id
  · simp [same]
  simp [getElem?_insert_ne _ _ same, same]

theorem RowsOf.effect {ids : List Uuid} (rows : RowsOf ids tables)
    (effect : RowEffect store tables written) : RowsOf ids written := by
  have own {id other : Uuid} (member : id ∈ ids) : other = id ∨ other ∈ ids ↔ other ∈ ids :=
    or_iff_right_of_imp fun same => same ▸ member
  cases effect with
  | @record id _ _ present kept observed others =>
    have member := (rows.projection id).1 present.2
    refine ⟨fun other => ?_, fun other => ?_, rows.workflow, rows.placement⟩
    · by_cases same : other = id
      · simp [same, kept, member]
      · simpa only [(others other same).1] using rows.projection other
    by_cases same : other = id
    · simp [same, observed ((rows.lifecycle id).2 member), member]
    simpa only [(others other same).2] using rows.lifecycle other
  | @moved id _ _ _ _ _ _ next reordered =>
    have member := (rows.projection id).1 next.present.2
    refine ⟨rows.projection, rows.lifecycle, fun other => ?_, fun other => ?_⟩
    · rw [isSome_insert_iff, rows.workflow, own member]
    have modes := congrArg Option.isSome (reordered.modes other)
    rw [Option.isSome_map, Option.isSome_map] at modes
    rw [isSome_insert_iff, modes, rows.placement, own member]
  | _ => exact ⟨rows.projection, rows.lifecycle, rows.workflow, rows.placement⟩

/-- The creations name every key and every workspace once, and account for the rows. -/
structure Accounted (tables : Tables) : Prop where
  keys : (tables.createdEvents.map CreatedEvent.idempotencyKey).Nodup
  workspaces : (createdIds tables).Nodup
  rows : RowsOf (createdIds tables) tables

theorem not_mem_created {event : CreatedEvent} (fresh : ∀ other ∈ tables.createdEvents,
    other.workspaceId ≠ event.workspaceId ∧ other.idempotencyKey ≠ event.idempotencyKey) :
    event.workspaceId ∉ createdIds tables := by
  intro member
  obtain ⟨other, isCreated, same⟩ := mem_map.1 member
  exact (fresh other isCreated).1 same

theorem Accounted.step (accounted : Accounted tables) (step : HistoryStep store tables written) :
    Accounted written := by
  obtain ⟨keys, workspaces, rows⟩ := accounted
  cases step with
  | linked | reviewed =>
    exact ⟨keys, workspaces, rows.projection, rows.lifecycle, rows.workflow, rows.placement⟩
  | rows effect =>
    rw [createdIds, ← effect.documents.created] at workspaces rows
    exact ⟨effect.documents.created ▸ keys, workspaces, rows.effect effect⟩
  | @created id event _ _ _ _ _ _ _ names fresh =>
    have once {field : CreatedEvent → Uuid} (distinct : (tables.createdEvents.map field).Nodup)
        (differs : ∀ other ∈ tables.createdEvents, field other ≠ field event) :
        ((tables.createdEvents ++ [event]).map field).Nodup := by
      rw [map_append, nodup_append]
      exact ⟨distinct, nodup_singleton _, by simpa using differs⟩
    refine ⟨once keys fun other member => (fresh other member).2,
      once workspaces fun other member => (fresh other member).1, ?_⟩
    constructor <;> intro other
    all_goals
      simp only [createdIds, isSome_insert_iff, rows.projection, rows.lifecycle, rows.workflow,
        rows.placement, map_append, mem_append, map_singleton, mem_singleton, names, or_comm]

/-! ### Removed workspaces -/

/-- Tombstones are only added, and a workspace with a tombstone keeps its rows. -/
structure RemovalsKept (tables written : Tables) : Prop where
  tombstones : tables.tombstoneEvents <+: written.tombstoneEvents
  rows : ∀ id : Uuid, tables.tombstoned id = true →
    written.projection[id]? = tables.projection[id]? ∧
      written.lifecycle[id]? = tables.lifecycle[id]? ∧
      written.workflow[id]? = tables.workflow[id]? ∧
      written.placement[id]? = tables.placement[id]?

theorem RemovalsKept.removed (kept : RemovalsKept tables written)
    (removed : tables.tombstoned workspaceId = true) : written.tombstoned workspaceId = true := by
  obtain ⟨event, member, named⟩ := any_eq_true.1 removed
  exact any_eq_true.2 ⟨event, kept.tombstones.subset member, named⟩

theorem RemovalsKept.trans {later : Tables} (first : RemovalsKept tables written)
    (second : RemovalsKept written later) : RemovalsKept tables later where
  tombstones := first.tombstones.trans second.tombstones
  rows := by
    intro id removed
    obtain ⟨projection, lifecycle, workflow, placement⟩ := second.rows id (first.removed removed)
    rw [projection, lifecycle, workflow, placement]
    exact first.rows id removed

/-- The creations account for the rows, and tombstones and events name workspaces of theirs. -/
structure Named (tables : Tables) : Prop extends Accounted tables where
  tombstones : ∀ event ∈ tables.tombstoneEvents, event.workspaceId ∈ createdIds tables
  placements : ∀ event ∈ tables.placementEvents, event.workspaceId ∈ createdIds tables

theorem HistoryStep.named (step : HistoryStep store tables written) (named : Named tables) :
    Named written := by
  have grows {own : Uuid} (old : own ∈ createdIds tables ∨ Present tables own) :
      own ∈ createdIds written := by
    obtain ⟨added, same⟩ := step.createdEvents
    rw [createdIds, same, map_append]
    exact mem_append_left _ (old.elim id fun present => (named.rows.projection _).1 present.2)
  suffices added : (∀ event ∈ written.tombstoneEvents, event ∈ tables.tombstoneEvents ∨
      Present tables event.workspaceId) ∧ ∀ event ∈ written.placementEvents,
      event ∈ tables.placementEvents ∨ Present tables event.workspaceId from
    ⟨named.step step, fun event member => grows ((added.1 event member).imp_left (named.tombstones _)),
      fun event member => grows ((added.2 event member).imp_left (named.placements _))⟩
  cases step with
  | rows effect =>
    cases effect with
    | removed present =>
      refine ⟨?_, fun _ => .inl⟩
      intro event member
      rcases mem_append.1 member with old | new
      · exact .inl old
      rw [mem_singleton.1 new]
      exact .inr present
    | moved next =>
      refine ⟨fun _ => .inl, ?_⟩
      intro event member
      rcases mem_append.1 member with old | new
      · exact .inl old
      rw [mem_singleton.1 new]
      exact .inr (next.workspace ▸ next.present)
    | _ => exact ⟨fun _ => .inl, fun _ => .inl⟩
  | _ => exact ⟨fun _ => .inl, fun _ => .inl⟩

theorem HistoryStep.removals (step : HistoryStep store tables written) (named : Named tables) :
    RemovalsKept tables written := by
  have apart {id workspaceId : Uuid} (removed : tables.tombstoned id = true)
      (live : tables.tombstoned workspaceId = false) : id ≠ workspaceId := by
    rintro rfl
    rw [live] at removed
    cases removed
  cases step with
  | linked | reviewed => exact ⟨prefix_refl _, fun _ _ => ⟨rfl, rfl, rfl, rfl⟩⟩
  | created _ _ names fresh =>
    refine ⟨prefix_refl _, fun id removed => ?_⟩
    obtain ⟨event, member, same⟩ := any_eq_true.1 removed
    have different := ne_of_mem_of_not_mem (named.tombstones event member) (not_mem_created fresh)
    rw [of_decide_eq_true same, names] at different
    simp only [getElem?_insert_ne _ _ different, true_and]
  | rows effect =>
    cases effect with
    | same => exact ⟨prefix_refl _, fun _ _ => ⟨rfl, rfl, rfl, rfl⟩⟩
    | observed => exact ⟨prefix_refl _, fun _ _ => ⟨rfl, rfl, rfl, rfl⟩⟩
    | record present _ _ others =>
      refine ⟨prefix_refl _, fun id removed => ?_⟩
      obtain ⟨projection, lifecycle⟩ := others id (apart removed present.1)
      exact ⟨projection, lifecycle, rfl, rfl⟩
    | removed => exact ⟨prefix_append _ _, fun _ _ => ⟨rfl, rfl, rfl, rfl⟩⟩
    | moved next reordered =>
      refine ⟨prefix_refl _, fun id removed => ?_⟩
      have different := apart removed next.present.1
      simp only [getElem?_insert_ne _ _ different, true_and]
      exact reordered.removed id removed

theorem run_named (store : WorkspaceStore) (calls : List (Call × CallEnv)) :
    Named (run store calls Tables.empty) := by
  apply run_invariant Named (fun _ _ call named => (perform_history call).named named)
  refine ⟨⟨nodup_nil, nodup_nil, ?_⟩, fun _ => (nomatch ·), fun _ => (nomatch ·)⟩
  constructor <;> simp [createdIds, Tables.empty]

theorem run_removals (calls : List (Call × CallEnv)) (named : Named tables) :
    RemovalsKept tables (run store calls tables) := by
  induction calls generalizing tables with
  | nil => exact ⟨prefix_refl _, fun _ _ => ⟨rfl, rfl, rfl, rfl⟩⟩
  | cons step rest ih =>
    have first : HistoryStep store tables (perform store step.2 tables step.1).2 := perform_history step.1
    exact (first.removals named).trans (ih (first.named named))

/-- Removal is final: whatever is called afterwards, the tombstones stay in their order, and a removed
workspace is never found again and none of its rows changes. -/
theorem removal_final (store : WorkspaceStore) (before after : List (Call × CallEnv)) :
    let removed := run store before Tables.empty
    let later := run store (before ++ after) Tables.empty
    RemovalsKept removed later ∧
      ∀ id, removed.tombstoned id = true → get store id later = .ok none := by
  intro removed later
  have kept : RemovalsKept removed later := by
    simp only [later, run_append]
    exact run_removals after (run_named store before)
  refine ⟨kept, fun id gone => ?_⟩
  simp only [get, loadProjection_of_tombstoned (kept.removed gone)]

/-! ### Live workspaces -/

/-- The workspace was created, and it is not removed. -/
def Remains (tables : Tables) (workspaceId : Uuid) : Prop :=
  workspaceId ∈ createdIds tables ∧ tables.tombstoned workspaceId = false

/-- The rows of every workspace without a tombstone are sound. -/
def RowsSound (store : WorkspaceStore) (tables : Tables) : Prop :=
  ∀ id : Uuid, Present tables id → Sound store tables id

theorem RowEffect.rowsSound (effect : RowEffect store tables written)
    (sound : RowsSound store tables) : RowsSound store written := by
  intro id present
  cases effect with
  | same | observed | moved => exact (sound id present).congr rfl rfl
  | @record changed _ _ was _ _ others keeps =>
    by_cases same : id = changed
    · subst same
      exact keeps (sound id was)
    obtain ⟨projection, lifecycle⟩ := others id same
    exact (sound id ⟨present.1, projection ▸ present.2⟩).congr projection lifecycle
  | removed =>
    refine (sound id ⟨?_, present.2⟩).congr rfl rfl
    have remains := present.1
    rw [Tables.tombstoned, any_append, Bool.or_eq_false_iff] at remains
    exact remains.1

theorem HistoryStep.rowsSound (step : HistoryStep store tables written)
    (sound : RowsSound store tables) : RowsSound store written := by
  cases step with
  | rows effect => exact effect.rowsSound sound
  | linked | reviewed => exact fun id present => (sound id present).congr rfl rfl
  | @created created _ _ _ _ _ _ _ _ _ _ new =>
    intro id present
    by_cases same : id = created
    · subst same
      exact new.congr rfl rfl
    have before : Present tables id :=
      ⟨present.1, getElem?_insert_ne tables.projection _ same ▸ present.2⟩
    exact (sound id before).congr (getElem?_insert_ne _ _ same) (getElem?_insert_ne _ _ same)

/-- The tables of a run: workspaces with rows are those of the log, and their rows are sound. -/
structure Reached (store : WorkspaceStore) (tables : Tables) : Prop where
  named : Named tables
  sound : RowsSound store tables

theorem Reached.run (reached : Reached store tables) (calls : List (Call × CallEnv)) :
    Reached store (run store calls tables) := by
  refine run_invariant (Reached store) ?_ calls reached
  intro env tables call before
  have step : HistoryStep store tables (perform store env tables call).2 := perform_history call
  exact ⟨step.named before.named, step.rowsSound before.sound⟩

theorem run_reached (store : WorkspaceStore) (calls : List (Call × CallEnv)) :
    Reached store (run store calls Tables.empty) := by
  refine Reached.run ⟨run_named store [], ?_⟩ calls
  intro id present
  simp [Present, run, Tables.empty] at present

/-- The log of the creations is kept. -/
theorem mem_createdIds_run (store : WorkspaceStore) (calls : List (Call × CallEnv))
    (created : workspaceId ∈ createdIds tables) :
    workspaceId ∈ createdIds (run store calls tables) := by
  refine run_invariant (workspaceId ∈ createdIds ·) ?_ calls created
  intro env before call member
  have step : HistoryStep store before (perform store env before call).2 := perform_history call
  obtain ⟨added, same⟩ := step.createdEvents
  rw [createdIds, same, map_append]
  exact mem_append_left _ member

/-- The live workspaces of a run are those that were created and are not removed. -/
theorem Reached.live_iff (reached : Reached store tables) :
    Live store tables workspaceId ↔ Remains tables workspaceId := by
  constructor
  · rintro ⟨decoded, loaded⟩
    obtain ⟨present, _⟩ := present_of_load loaded
    exact ⟨(reached.named.rows.projection workspaceId).1 present.2, present.1⟩
  rintro ⟨created, remains⟩
  obtain ⟨record, rows⟩ :=
    reached.sound workspaceId ⟨remains, (reached.named.rows.projection workspaceId).2 created⟩
  obtain ⟨lifecycle, _, found⟩ := rows.load remains
  exact ⟨_, found⟩

/-- A call on any other workspace is answered with `WorkspaceNotFound`. -/
theorem Reached.require_error (reached : Reached store tables)
    (gone : ¬ Remains tables workspaceId) :
    requireProjection store tables workspaceId = .error (.workspaceNotFound workspaceId) := by
  have missing : loadProjection store tables workspaceId = .ok none := by
    cases removed : tables.tombstoned workspaceId with
    | true => exact loadProjection_of_tombstoned removed
    | false =>
      have unknown : tables.projection[workspaceId]? = none := by
        rw [← Option.not_isSome_iff_eq_none, reached.named.rows.projection]
        exact fun created => gone ⟨created, removed⟩
      simp only [loadProjection, unknown]
  simp only [requireProjection, missing]

/-! ### The log of the board -/

/-- One event of the log of a workspace, taken as a compare-and-swap of its place on the board. -/
def replayStep (place : WorkspaceWorkflowState × WorkspaceBoardPlacementMode × ℕ)
    (event : BoardPlacementEvent) :
    Option (WorkspaceWorkflowState × WorkspaceBoardPlacementMode × ℕ) :=
  if event.fromState = place.1 ∧ event.fromMode = place.2.1 ∧
      event.workflowRevision = place.2.2 + 1 then
    some (event.toState, event.toMode, event.workflowRevision)
  else
    none

/-- The replay of a log from the place of a new workspace. -/
def replayBoard (events : List BoardPlacementEvent) :
    Option (WorkspaceWorkflowState × WorkspaceBoardPlacementMode × ℕ) :=
  events.foldlM replayStep (.ready, .automatic, 1)

def boardLog (tables : Tables) (workspaceId : Uuid) : List BoardPlacementEvent :=
  tables.placementEvents.filter fun event => event.workspaceId = workspaceId

/-- The replay of a workspace's log gives its place on the board, and the log of the state changes is
the part of the board log in which a card changes its lane. -/
structure BoardLogged (tables : Tables) : Prop where
  rows : ∀ (id : Uuid) row placed, tables.workflow[id]? = some row →
    tables.placement[id]? = some placed →
      replayBoard (boardLog tables id) = some (row.state, placed.mode, row.workflowRevision)
  changes : tables.workflowEvents.map WorkflowEvent.change =
    tables.placementEvents.flatMap fun event =>
      stateChange event.workspaceId event.fromState event.toState event.workflowRevision

theorem loadWorkflow_eq_ok {current : WorkspaceWorkflowSummary}
    (loaded : loadWorkflow tables workspaceId = .ok current) :
    ∃ row placed, tables.workflow[workspaceId]? = some row ∧
      tables.placement[workspaceId]? = some placed ∧ row.state = current.state ∧
      placed.mode = current.placement.mode ∧ row.workflowRevision = current.revision := by
  simp only [loadWorkflow] at loaded
  split at loaded
  · split at loaded
    · cases loaded
    cases loaded
    exact ⟨_, _, ‹_›, ‹_›, rfl, rfl, rfl⟩
  cases loaded

theorem BoardLogged.moved (logged : BoardLogged tables) {current event changes row placement placed}
    (next : IsNext tables event workspaceId current) (reordered : Reordered tables placement)
    (change : changes.map WorkflowEvent.change =
      stateChange workspaceId event.fromState event.toState event.workflowRevision)
    (result : row.state = event.toState ∧ placed.mode = event.toMode ∧
      row.workflowRevision = event.workflowRevision) :
    BoardLogged { tables with
        workflowEvents := tables.workflowEvents ++ changes
        placementEvents := tables.placementEvents ++ [event]
        workflow := tables.workflow.insert workspaceId row
        placement := placement.insert workspaceId placed } where
  rows := by
    intro id newRow newPlaced isRow isPlaced
    simp only [boardLog, filter_append]
    by_cases same : id = workspaceId
    · subst same
      rw [Std.ExtTreeMap.getElem?_insert_self, Option.some.injEq] at isRow isPlaced
      subst isRow isPlaced
      obtain ⟨old, oldPlaced, isOld, wasPlaced, state, mode, revision⟩ :=
        loadWorkflow_eq_ok next.loaded
      have before := logged.rows id old oldPlaced isOld wasPlaced
      have own : (filter (fun other => decide (other.workspaceId = id)) [event]) = [event] :=
        filter_cons_of_pos (decide_eq_true next.workspace)
      rw [boardLog, replayBoard] at before
      rw [own, replayBoard, foldlM_append, before]
      simp [replayStep, next.state, next.mode, next.revision, state, mode, revision, result]
    rw [getElem?_insert_ne _ _ same] at isRow isPlaced
    have others : (filter (fun other => decide (other.workspaceId = id)) [event]) = [] :=
      filter_cons_of_neg fun isId => same (next.workspace ▸ (of_decide_eq_true isId).symm)
    have mode := reordered.modes id
    rw [isPlaced] at mode
    obtain ⟨oldPlaced, wasPlaced, sameMode⟩ := Option.map_eq_some_iff.1 mode.symm
    rw [others, append_nil, ← sameMode]
    exact logged.rows id newRow oldPlaced isRow wasPlaced
  changes := by
    rw [map_append, flatMap_append, logged.changes, change, flatMap_singleton, next.workspace]

theorem HistoryStep.logged (step : HistoryStep store tables written) (named : Named tables)
    (logged : BoardLogged tables) : BoardLogged written := by
  cases step with
  | linked | reviewed => exact ⟨logged.rows, logged.changes⟩
  | @created workspaceId _ _ _ row placed _ _ initial names fresh =>
    refine ⟨?_, logged.changes⟩
    intro id newRow newPlaced isRow isPlaced
    by_cases same : id = workspaceId
    · subst same
      rw [Std.ExtTreeMap.getElem?_insert_self, Option.some.injEq] at isRow isPlaced
      subst isRow isPlaced
      have none : boardLog tables id = [] := by
        rw [boardLog, filter_eq_nil_iff]
        intro event member isId
        have known := named.placements event member
        rw [of_decide_eq_true isId, ← names] at known
        exact not_mem_created fresh known
      rw [initial.1, initial.2.1, initial.2.2]
      exact congrArg replayBoard none
    rw [getElem?_insert_ne _ _ same] at isRow isPlaced
    exact logged.rows id newRow newPlaced isRow isPlaced
  | rows effect =>
    cases effect with
    | moved next reordered change result => exact logged.moved next reordered change result
    | _ => exact ⟨logged.rows, logged.changes⟩

/-- In every reachable state the board is the replay of its log: each event follows the one before it,
from its lane and mode and with the next revision, and no other call changes a lane, a mode or a
revision; the log of the state changes is the board log without the moves inside a lane. -/
theorem board_logged (store : WorkspaceStore) (calls : List (Call × CallEnv)) :
    BoardLogged (run store calls Tables.empty) := by
  suffices both : Named (run store calls Tables.empty) ∧ BoardLogged (run store calls Tables.empty)
    from both.2
  apply run_invariant fun tables => Named tables ∧ BoardLogged tables
  · intro env tables call ⟨named, logged⟩
    exact ⟨(perform_history call).named named, (perform_history call).logged named logged⟩
  refine ⟨run_named store [], ?_, rfl⟩
  intro id row placed isRow
  simp [Tables.empty] at isRow

/-- Every workspace is created once: in every reachable state exactly the workspaces of the creation log
have rows, in all four tables, tombstones and board events are theirs, and a creation with a key of the
log writes nothing. -/
theorem created_once (store : WorkspaceStore) (calls : List (Call × CallEnv)) :
    let tables := run store calls Tables.empty
    Named tables ∧ ∀ event ∈ tables.createdEvents, ∀ env key request,
      parseIdempotencyKey key = .ok event.idempotencyKey →
        (perform store env tables (.create key request)).2 = tables := by
  refine ⟨run_named store calls, fun event member env key request parsed => ?_⟩
  simp only [perform, create, parsed]
  split
  · rfl
  rw [thenView_tables]
  apply inTransaction_related fun before after => after = before
  · rfl
  intro result after ran
  rcases createTransaction_eq_ok ran with ⟨_, same⟩ | ⟨unknown, _⟩
  · exact same
  simp only [findCreated, find?_eq_none] at unknown
  exact absurd (decide_eq_true rfl) (unknown event member)

end Wts.Store
