/-
Module: Wts.Proofs.EvidenceContext
Purpose: When an evidence context is valid for a view and a manifest: for each repository of the
  manifest, the first saved repository with its label must have the base with which that repository
  was saved.
Trusted boundary: none
Main exports: Documents, Settles
-/
import Wts.App.RepositorySet
import Wts.Proofs.StoreRecords
import Wts.Proofs.WorkspaceSetup

namespace Wts.RepositorySet

open Text Workspace Worktree Interrupt Materialization Service List Function Traverse
open Interrupt.Proc
open Store (Tables WorkspaceStore WorkspaceView WorkspaceRepositoryPlan Shows savedRecord)
open Wts.CodeWorkspace (RepositorySummary eqIgnoreAsciiCase)

/-! ### Validation -/

/-- What the evidence of a worktree repeats of it. -/
structure Evidences (repository : EvidenceRepository) (worktree : MaterializedWorktree) : Prop where
  id : repository.repositoryId = worktree.repositoryId
  label : repository.label = worktree.label
  commit : repository.baseCommitOid = worktree.baseCommitOid
  path : repository.worktreeDisplayPath = worktree.targetDisplayPath
  resolved : repository.resolvedBaseRef ≠ ""
  valid : validCommitOid repository.baseCommitOid = true

/-- A context that was written for a manifest. -/
structure Documents (view : WorkspaceView) (materialization : WorkspaceMaterialization)
    (context : WorkspaceEvidenceContext) (bases : List (String × String)) : Prop where
  workspace : describesWorkspace view materialization context = true
  allowed : context.allowedRepositoryIds = context.repositories.map EvidenceRepository.repositoryId
  distinct : (materialization.worktrees.map MaterializedWorktree.repositoryId).Nodup
  ids : (context.repositories.map EvidenceRepository.repositoryId).Perm
    (materialization.worktrees.map MaterializedWorktree.repositoryId)
  evidence : ∀ repository ∈ context.repositories, ∃ worktree ∈ materialization.worktrees,
    Evidences repository worktree
  bases : ∀ repository ∈ context.repositories, ∀ base,
    (repository.repositoryId, base) ∈ bases ↔ repository.requestedBaseRef = base

/-- The first request that bears the label. -/
def firstNamed (view : WorkspaceView) (label : String) : Option WorkspaceRepositoryPlan :=
  view.repositories.find? fun request => eqIgnoreAsciiCase request.label label

/-- The first saved repository with the label of a repository has the base with which that repository
was saved. -/
def NamesBases (view : WorkspaceView) (materialization : WorkspaceMaterialization)
    (bases : List (String × String)) : Prop :=
  ∀ worktree ∈ materialization.worktrees, ∀ base, (worktree.repositoryId, base) ∈ bases →
    ∃ named, firstNamed view worktree.label = some named ∧ named.baseRef = base

section Documents

variable {view : WorkspaceView} {materialization : WorkspaceMaterialization}
  {context : WorkspaceEvidenceContext} {bases : List (String × String)}

variable {worktree : MaterializedWorktree}

theorem find?_worktree (distinct : (materialization.worktrees.map
      MaterializedWorktree.repositoryId).Nodup) (member : worktree ∈ materialization.worktrees) :
    materialization.worktrees.find? (fun other => other.repositoryId = worktree.repositoryId) =
      some worktree := by
  cases found : materialization.worktrees.find? fun other =>
      decide (other.repositoryId = worktree.repositoryId) with
  | none =>
    have absent := find?_eq_none.1 found worktree member
    simp at absent
  | some other =>
    have inside := mem_of_find?_eq_some found
    have same : other.repositoryId = worktree.repositoryId := by
      simpa using find?_some found
    rw [inj_on_of_nodup_map distinct inside member same]

theorem Documents.validRepository_iff (documents : Documents view materialization context bases)
    {repository : EvidenceRepository} (member : repository ∈ context.repositories)
    (inside : worktree ∈ materialization.worktrees) (evidences : Evidences repository worktree) :
    validEvidenceRepository view materialization context.allowedRepositoryIds repository = true ↔
      ∃ named, firstNamed view worktree.label = some named ∧
        named.baseRef = repository.requestedBaseRef := by
  have found := find?_worktree documents.distinct inside
  rw [← evidences.id] at found
  have listed : context.allowedRepositoryIds.contains repository.repositoryId = true := by
    rw [documents.allowed]
    simpa using ⟨repository, member, rfl⟩
  have valid := evidences.valid
  rw [evidences.commit] at valid
  rw [validEvidenceRepository, found, firstNamed, ← evidences.label]
  dsimp only
  cases view.repositories.find? fun request => eqIgnoreAsciiCase request.label repository.label with
  | none => simp
  | some named =>
    simp only [listed, evidences.label, evidences.commit, evidences.path, evidences.resolved, valid,
      decide_true, ne_eq, not_false_eq_true, Bool.and_true, Bool.true_and, decide_eq_true_eq,
      Option.some.injEq, exists_eq_left']
    exact eq_comm

theorem Documents.validates_iff (documents : Documents view materialization context bases) :
    (∃ allowed, validateWorkspaceEvidenceContext view materialization context = .ok allowed) ↔
      NamesBases view materialization bases := by
  have nodup : context.allowedRepositoryIds.Nodup := by
    rw [documents.allowed]
    exact documents.ids.nodup_iff.2 documents.distinct
  have length : context.allowedRepositoryIds.length = materialization.worktrees.length := by
    rw [documents.allowed]
    simpa using documents.ids.length_eq
  have accepted : (∃ allowed, validateWorkspaceEvidenceContext view materialization context =
        .ok allowed) ↔
      ∀ repository ∈ context.repositories, validEvidenceRepository view materialization
        context.allowedRepositoryIds repository = true := by
    simp only [validateWorkspaceEvidenceContext, documents.workspace, nodup, length, decide_true,
      Bool.and_self, Bool.true_and, all_eq_true]
    split
    · rename_i all
      exact ⟨fun _ => all, fun _ => ⟨_, rfl⟩⟩
    rename_i invalid
    exact ⟨fun ⟨_, impossible⟩ => (nomatch impossible), fun all => absurd all invalid⟩
  rw [accepted]
  constructor
  · intro all worktree inside base saved
    have listed : worktree.repositoryId ∈
        context.repositories.map EvidenceRepository.repositoryId :=
      documents.ids.mem_iff.2 (mem_map_of_mem inside)
    obtain ⟨repository, member, id⟩ := mem_map.1 listed
    obtain ⟨other, inside', evidences⟩ := documents.evidence repository member
    obtain rfl := inj_on_of_nodup_map documents.distinct inside' inside
      (evidences.id.symm.trans id)
    rw [← id] at saved
    rw [← (documents.bases repository member base).1 saved]
    exact (documents.validRepository_iff member inside evidences).1 (all repository member)
  intro named repository member
  obtain ⟨worktree, inside, evidences⟩ := documents.evidence repository member
  apply (documents.validRepository_iff member inside evidences).2
  apply named worktree inside
  rw [← evidences.id]
  exact (documents.bases repository member _).2 rfl

end Documents

section Setup

variable {env : SetupEnv} {disk after : Disk} {view : WorkspaceView} {preflight : WorkspacePreflight}
  {plan : WorktreePlan} {materialization : WorkspaceMaterialization}

/-- The base of each worktree, as it was requested. -/
def savedBases (view : WorkspaceView) (materialization : WorkspaceMaterialization) :
    List (String × String) :=
  (view.repositories.zip materialization.worktrees).map fun pair =>
    (pair.2.repositoryId, pair.1.baseRef)

variable {context : WorkspaceEvidenceContext}

theorem mem_setupSteps_context :
    .file (evidenceFile "context.json") maxEvidenceFileBytes (.ok (.context context)) ∈
      setupSteps env view materialization context := by
  simp [setupSteps, initialFileNames, initialDocuments, evidenceFile]

theorem find?_preflightRepository {planned : PlannedWorktree}
    (distinct : (plan.repositories.map fun planned => planned.repository.id).Nodup)
    (member : planned ∈ plan.repositories) : (plan.repositories.map preflightRepository).find?
        (fun found => found.repositoryId = planned.repository.id) =
      some (preflightRepository planned) := by
  rw [find?_map]
  cases found : plan.repositories.find? ((fun found : PreflightRepository =>
      decide (found.repositoryId = planned.repository.id)) ∘ preflightRepository) with
  | none =>
    have absent := find?_eq_none.1 found planned member
    simp [preflightRepository] at absent
  | some other =>
    have inside := mem_of_find?_eq_some found
    have same : other.repository.id = planned.repository.id := by
      have holds := find?_some found
      exact of_decide_eq_true holds
    rw [inj_on_of_nodup_map distinct inside member same]
    rfl

theorem published_evidence (published : Published env disk view preflight plan materialization after)
    (known : evidenceContext view preflight materialization = .ok context) :
    List.Forall₂ (fun pair repository => Evidences repository pair.2 ∧
        repository.requestedBaseRef = pair.1.baseRef)
      (view.repositories.zip materialization.worktrees) context.repositories := by
  obtain ⟨catalog, -, selected⟩ := published.ready.selected
  have recorded := (forall₂_and_left (p := (· ∈ plan.repositories)) _ _).2
    ⟨fun _ member => member, published.worktrees⟩
  obtain ⟨repositories, traversed, made⟩ := bind_eq_ok.1 known
  cases made
  have written := mapM_eq_ok_iff.1 traversed
  apply (Traverse.forall₂_zip (forall₂_comp selected recorded) written).imp
  intro ⟨saved, worktree⟩ repository ⟨⟨planned, ⟨request, ⟨_, _, made⟩, listed⟩, member, record⟩, found⟩
  rw [published.ready.repositories, record.id,
    find?_preflightRepository published.ready.distinct member] at found
  cases found
  have requested := listed.requested
  rw [made] at requested
  have commit : validCommitOid planned.base.commitOid = true := listed.commit
  exact ⟨⟨rfl, rfl, rfl, rfl, listed.resolved, by rw [← record.base] at commit; exact commit⟩,
    requested⟩

theorem published_documents
    (published : Published env disk view preflight plan materialization after)
    (known : evidenceContext view preflight materialization = .ok context) :
    Documents view materialization context (savedBases view materialization) := by
  have written := published_evidence published known
  have ⟨_, _, recordVersion, _, _, _, _, _, _⟩ := published.fields
  obtain ⟨catalog, -, selected⟩ := published.ready.selected
  have lengths := selected.length_eq.trans published.worktrees.length_eq
  have seconds : (view.repositories.zip materialization.worktrees).map Prod.snd =
      materialization.worktrees := map_snd_zip lengths.ge
  have ids : (view.repositories.zip materialization.worktrees).map
        (fun pair => pair.2.repositoryId) =
      context.repositories.map EvidenceRepository.repositoryId := by
    rw [← forall₂_eq_eq_eq, forall₂_map_left_iff, forall₂_map_right_iff]
    exact written.imp fun _ _ evidence => evidence.1.id.symm
  have sameIds : context.repositories.map EvidenceRepository.repositoryId =
      materialization.worktrees.map MaterializedWorktree.repositoryId := by
    rw [← ids]
    conv_rhs => rw [← seconds, map_map]
    rfl
  have distinct := published.distinct
  have distinctPairs : ((view.repositories.zip materialization.worktrees).map
      fun pair => pair.2.repositoryId).Nodup := by
    rw [ids, sameIds]
    exact distinct
  obtain ⟨repositories, traversed, made⟩ := bind_eq_ok.1 known
  cases made
  have length : repositories.length = materialization.worktrees.length := by
    simpa using congrArg List.length sameIds
  refine ⟨?_, rfl, distinct, .of_eq sameIds, ?_, ?_⟩
  · have version : wtsVersion ≠ "" := by decide
    simp [describesWorkspace, length, version]
  · intro repository member
    obtain ⟨pair, inside, evidences, _⟩ := forall₂_mem_left written.flip member
    exact ⟨pair.2, (of_mem_zip (of_mem_zip inside).2).2, evidences⟩
  intro repository member base
  obtain ⟨pair, inside, evidences, requested⟩ := forall₂_mem_left written.flip member
  have own := (of_mem_zip inside).2
  constructor
  · intro saved
    obtain ⟨other, member', same⟩ := mem_map.1 saved
    obtain ⟨id, base⟩ := Prod.mk.inj same
    have unique := inj_on_of_nodup_map distinctPairs member' own (id.trans evidences.id)
    rw [requested, ← base, unique]
  rintro rfl
  rw [requested, evidences.id]
  exact mem_map_of_mem own

end Setup

/-! ### Steps -/

section Steps

variable {env : ServiceEnv} {workspaceId : Uuid} {state : ServiceState} {fates : List Fate}

/-- Nothing has changed but the agent report and the agent runs. -/
structure Retains (state after : ServiceState) : Prop where
  tables : after.tables = state.tables
  worktrees : after.worktrees = state.worktrees
  root : after.disk.canonicalRoot = state.disk.canonicalRoot
  entries : ∀ path, path ≠ evidenceFile agentReportFile →
    ¬ [evidenceDirectory, agentRunsDirectory] <+: path →
      after.disk.entries path = state.disk.entries path

@[refl] theorem Retains.refl (state : ServiceState) : Retains state state :=
  ⟨rfl, rfl, rfl, fun _ _ _ => rfl⟩

variable {middle after : ServiceState}

theorem Retains.trans (first : Retains state middle)
    (second : Retains middle after) : Retains state after :=
  ⟨second.tables.trans first.tables, second.worktrees.trans first.worktrees,
    second.root.trans first.root, fun path report runs =>
      (second.entries path report runs).trans (first.entries path report runs)⟩

theorem retains_report : Retains state (state.write (agentReport env)) := by
  refine ⟨rfl, rfl, rfl, fun path report _ => ?_⟩
  exact update_of_ne report _ _

theorem retains_kept {kept : Disk} (removed : env.retainAgentRuns state.disk = .ok (some kept)) :
    Retains state { state with disk := kept } := by
  have ⟨root, entries⟩ := env.retained state.disk kept removed
  exact ⟨rfl, rfl, root, fun path _ runs => entries path runs⟩

theorem replaceFile_ends (file : Replacement) : Ends (replaceFile env file) fates state
      (fun _ _ after => accepts env state.disk file = true ∧ after = state.write file)
      fun _ after => after = state ∨ after = state.write file := by
  apply Ends.bind_read
  apply Ends.ite
  · intro accepted
    apply Ends.change
    · exact fun _ => ⟨accepted, rfl⟩
    · exact fun _ => .inl rfl
    exact fun _ => .inr rfl
  exact fun _ => Ends.fail (.inl rfl)

theorem replaceFiles_ends (files : List Replacement) : Ends (replaceFiles env files) fates state
      (fun _ _ after => after = files.foldl (fun state file => state.write file) state)
      fun _ _ => True := by
  induction files generalizing fates state with
  | nil => exact .pure rfl
  | cons file rest ih =>
    apply Ends.bind_mono (replaceFile_ends file)
    · exact fun _ _ _ => trivial
    rintro _ left after ⟨_, rfl⟩
    exact ih

theorem writeMissingReport_ends :
    Ends (writeMissingReport env) fates state (fun _ _ after => Retains state after)
      fun _ after => Retains state after := by
  apply Ends.bind_read
  apply Ends.ite
  · intro _
    apply Ends.bind
    apply Ends.attempt
    apply Ends.mono (replaceFile_ends (agentReport env))
    · rintro _ left after ⟨_, rfl⟩
      exact .pure retains_report
    intro stopped after ended
    have retains : Retains state after := by
      obtain rfl | rfl := ended
      · exact .refl _
      exact retains_report
    cases stopped with
    | none => exact retains
    | some error => exact fun _ => Ends.pure retains
  exact fun _ => Ends.pure (.refl state)

theorem removeOldRuns_ends :
    Ends (removeOldRuns env) fates state (fun _ _ after => Retains state after)
      fun _ after => Retains state after := by
  apply Ends.bind_read
  apply Ends.bind_ofExcept
  · exact fun _ _ => .refl state
  intro kept removed
  cases kept with
  | none => exact .pure (.refl state)
  | some kept =>
    apply Ends.change
    · exact fun _ => retains_kept removed
    · exact fun _ => .refl state
    exact fun _ => retains_kept removed

theorem readEvidence_ends : Ends (readEvidence env) fates state
      (fun evidence _ after => evidenceDocuments env state.disk = some evidence ∧
        Retains state after) fun _ after => Retains state after := by
  apply Ends.bind_read
  split
  · exact .fail (.refl state)
  rename_i evidence known
  apply Ends.bind_mono writeMissingReport_ends
  · exact fun _ _ first => first
  intro _ left middle first
  apply Ends.bind_mono removeOldRuns_ends
  · exact fun _ _ second => first.trans second
  exact fun _ _ after second => Ends.pure ⟨known, first.trans second⟩

/-- A change is prepared from the evidence that was there. -/
structure Prepared (env : ServiceEnv) (workspaceId : Uuid) (state after : ServiceState)
    (materialization : WorkspaceMaterialization)
    (update : List EvidenceRepository → List EvidenceRepository) (changed : PreparedChange) :
    Prop where
  retains : Retains state after
  manifest : changed.materialization = materialization
  opens : opensEvidence state.disk = true
  evidence : ∃ evidence, evidenceDocuments env state.disk = some evidence ∧
    changedEvidence env workspaceId materialization (update evidence.context.repositories) evidence =
      some changed.evidence
  backups : backupFiles env after.disk (replacements env materialization changed.evidence) =
    some changed.backups

theorem prepareChange_ends (materialization : WorkspaceMaterialization)
    (update : List EvidenceRepository → List EvidenceRepository) :
    Ends (prepareChange env workspaceId materialization update) fates state
      (fun changed _ after => Prepared env workspaceId state after materialization update changed)
      fun _ after => Retains state after := by
  apply Ends.bind_read
  refine Ends.guard (.refl state) fun opens => ?_
  apply Ends.bind_mono readEvidence_ends
  · exact fun _ _ retains => retains
  intro evidence left after ⟨known, retains⟩
  split
  · exact .fail retains
  rename_i changed made
  apply Ends.bind_read
  split
  · exact .fail retains
  rename_i backups saved
  exact .pure
    { retains := retains
      manifest := rfl
      opens := by simpa using opens
      evidence := ⟨evidence, known, made⟩
      backups := saved }

def writeAll (files : List Replacement) (state : ServiceState) : ServiceState :=
  files.foldl (fun state file => state.write file) state

@[simp] theorem writeAll_cons (file : Replacement) (files : List Replacement) (state : ServiceState) :
    writeAll (file :: files) state = writeAll files (state.write file) := rfl

@[simp] theorem writeAll_tables (files : List Replacement) (state : ServiceState) :
    (writeAll files state).tables = state.tables := by
  induction files generalizing state with
  | nil => rfl
  | cons file rest ih => exact ih _

theorem writeAll_entries_of_ne {files : List Replacement} {path : List String}
    (other : ∀ file ∈ files, file.path ≠ path) (state : ServiceState) :
    (writeAll files state).disk.entries path = state.disk.entries path := by
  induction files generalizing state with
  | nil => rfl
  | cons file rest ih =>
    have ne := other file mem_cons_self
    rw [writeAll_cons, ih fun file member => other file (mem_cons_of_mem _ member)]
    exact update_of_ne (Ne.symm ne) _ _

variable {file : Replacement}

theorem writeAll_entries {before rest : List Replacement}
    (last : ∀ other ∈ rest, other.path ≠ file.path) (state : ServiceState) :
    (writeAll (before ++ file :: rest) state).disk.entries file.path =
      some (.file file.document) := by
  rw [writeAll, foldl_append]
  change (writeAll (file :: rest) (writeAll before state)).disk.entries file.path = _
  rw [writeAll_cons, writeAll_entries_of_ne last]
  exact update_self _ _ _

variable {α : Type}

theorem registryCall_ends (call : Tables → Store.Outcome α) : Ends (registryCall call) fates state
      (fun _ _ after => (∃ value, (call state.tables).1 = .ok value) ∧
        after = { state with tables := (call state.tables).2 })
      fun _ after => after = state ∨ after = { state with tables := (call state.tables).2 } := by
  apply Ends.bind_read
  apply Ends.bind_change
  · exact fun _ => .inl rfl
  · exact fun _ => .inr rfl
  intro left
  split
  · rename_i value ok
    exact .pure ⟨⟨value, ok⟩, rfl⟩
  exact .fail (.inr rfl)

theorem persistChange_ends (changed : PreparedChange) (call : Tables → Store.Outcome α) :
    Ends (persistChange env changed call) fates state
      (fun _ _ after => (∃ value, (call state.tables).1 = .ok value) ∧ after =
          { writeAll (replacements env changed.materialization changed.evidence) state with
            tables := (call state.tables).2 })
      fun _ _ => True := by
  apply Ends.bind_mono (replaceFiles_ends _)
  · exact fun _ _ stopped => stopped
  intro _ left written same
  have tables : written.tables = state.tables := by rw [same]; exact writeAll_tables _ _
  apply Ends.mono (registryCall_ends call)
  · intro _ _ after ⟨ok, changed⟩
    rw [tables] at ok changed
    rw [same] at changed
    exact ⟨ok, changed⟩
  exact fun _ _ _ => trivial

/-- Nothing has changed but the lifecycle, the review inbox and the manifest of the graph. -/
structure Settles (workspaceId : Uuid) (state after : ServiceState) : Prop where
  record : savedRecord after.tables workspaceId = savedRecord state.tables workspaceId
  worktrees : after.worktrees = state.worktrees
  root : after.disk.canonicalRoot = state.disk.canonicalRoot
  entries : ∀ path, path ≠ evidenceFile reviewInboxFile →
    path ≠ evidenceFile "graph-manifest.json" →
      after.disk.entries path = state.disk.entries path

@[refl] theorem Settles.refl (state : ServiceState) : Settles workspaceId state state :=
  ⟨rfl, rfl, rfl, fun _ _ _ => rfl⟩

theorem Settles.trans (first : Settles workspaceId state middle)
    (second : Settles workspaceId middle after) : Settles workspaceId state after :=
  ⟨second.record.trans first.record, second.worktrees.trans first.worktrees,
    second.root.trans first.root, fun path inbox graph =>
      (second.entries path inbox graph).trans (first.entries path inbox graph)⟩

theorem settles_write (place : file.path = evidenceFile reviewInboxFile ∨
      file.path = evidenceFile "graph-manifest.json") :
    Settles workspaceId state (state.write file) := by
  refine ⟨rfl, rfl, rfl, fun path inbox graph => ?_⟩
  apply update_of_ne
  obtain here | here := place
  · rw [here]
    exact inbox
  rw [here]
  exact graph

theorem attempt_settles {δ : Type} {program : Proc ServiceState LocalWtsError α}
    (ends : Ends program fates state (fun _ _ after => Settles workspaceId state after)
      fun _ after => Settles workspaceId state after) :
    Ends (attempt (δ := δ) program) fates state (fun _ _ after => Settles workspaceId state after)
      fun _ after => Settles workspaceId state after := by
  apply Ends.attempt
  apply Ends.mono ends
  · exact fun _ _ _ settles => settles
  intro stopped after settles
  cases stopped with
  | none => exact settles
  | some error => exact fun _ => settles

theorem replaceFile_settles (place : file.path = evidenceFile reviewInboxFile ∨
      file.path = evidenceFile "graph-manifest.json") :
    Ends (replaceFile env file) fates state (fun _ _ after => Settles workspaceId state after)
      fun _ after => Settles workspaceId state after := by
  apply Ends.mono (replaceFile_ends file)
  · rintro _ _ after ⟨_, rfl⟩
    exact settles_write place
  rintro _ after (rfl | rfl)
  · exact .refl _
  exact settles_write place

theorem publishReviewInbox_settles :
    Ends (publishReviewInbox env) fates state (fun _ _ after => Settles workspaceId state after)
      fun _ after => Settles workspaceId state after := by
  apply Ends.bind_ofExcept
  · exact fun _ _ => .refl state
  exact fun text _ => replaceFile_settles (.inl rfl)

theorem recordGraph_settles (materialization : WorkspaceMaterialization) (recordFailure : Bool) :
    Ends (recordGraph env materialization recordFailure) fates state
      (fun _ _ after => Settles workspaceId state after)
      fun _ after => Settles workspaceId state after := by
  unfold recordGraph
  split
  · apply Ends.bind_mono (attempt_settles (replaceFile_settles (.inr rfl)))
    · exact fun _ _ settles => settles
    intro result left after settles
    cases result with
    | ok _ => exact .pure settles
    | error _ => exact .pure settles
  apply Ends.ite
  · intro _
    apply Ends.bind_mono (attempt_settles (replaceFile_settles (.inr rfl)))
    · exact fun _ _ settles => settles
    exact fun _ _ _ settles => Ends.pure settles
  exact fun _ => Ends.pure (.refl state)

theorem observeLifecycle_settles (materializationState : WorkspaceMaterializationState)
    (worktreeCount : UInt32) :
    Ends (registryCall fun tables => Store.observeLifecycle env.store env.call workspaceId
        materializationState worktreeCount tables) fates state
      (fun _ _ after => Settles workspaceId state after)
      fun _ after => Settles workspaceId state after := by
  have observed : Settles workspaceId state { state with tables := (Store.observeLifecycle env.store
      env.call workspaceId materializationState worktreeCount state.tables).2 } :=
    ⟨Store.observeLifecycle_records _ _ _, rfl, rfl, fun _ _ _ => rfl⟩
  apply Ends.mono (registryCall_ends _)
  · rintro _ _ after ⟨_, rfl⟩
    exact observed
  rintro _ after (rfl | rfl)
  · exact .refl _
  exact observed

end Steps

end Wts.RepositorySet
