/-
Module: Wts.Proofs.RepositorySetRuns
Purpose: Runs of a setup with additions and removals of repositories after it.
Trusted boundary: none
Main exports: evidence_context_validates_iff
-/
import Wts.Proofs.EvidenceContext
import Wts.Proofs.WorkspaceCanonical
import Wts.Proofs.WorktreePlans

namespace Wts.RepositorySet

open Text Workspace Worktree Interrupt Materialization Service List
open Interrupt.Proc
open Store (Tables WorkspaceStore WorkspaceView WorkspaceRepositoryPlan WorkspaceRecord Shows savedRecord)
open Wts.CodeWorkspace (RepositorySummary eqIgnoreAsciiCase)

/-! ### The calls -/

section Calls

variable {env : ServiceEnv} {workspaceId : Uuid} {state : ServiceState} {fates : List Fate}

theorem linkWorktree_ends (planned : PlannedWorktree) : Ends (linkWorktree planned) fates state
      (fun _ _ after => state.disk.entries (leafOf planned.targetPath) = none ∧
        after = state.link planned) fun _ _ => True := by
  apply Ends.bind_read
  apply Ends.ite
  · intro ⟨free, _⟩
    apply Ends.change
    · exact fun _ => ⟨free, rfl⟩
    · exact fun _ => trivial
    exact fun _ => trivial
  exact fun _ => Ends.fail trivial

theorem removeWorktree_ends (request : WorktreeRemovalRequest) :
    Ends (removeWorktree env request) fates state
      (fun _ _ after => after = state ∨ after = state.unlink request.targetPath)
      fun _ _ => True := by
  apply Ends.bind_read
  apply Ends.bind_ofExcept
  · exact fun _ _ => trivial
  intro inspection _
  apply Ends.ite
  · exact fun _ => Ends.pure (.inl rfl)
  intro _
  refine Ends.guard trivial fun _ => ?_
  refine Ends.guard trivial fun _ => ?_
  apply Ends.change
  · exact fun _ => .inr rfl
  · exact fun _ => trivial
  exact fun _ => trivial

/-- A change that was prepared in one state, and then written with a call of the registry. -/
structure Persisted {α : Type} (env : ServiceEnv) (workspaceId : Uuid) (state after : ServiceState)
    (materialization : WorkspaceMaterialization)
    (update : List EvidenceRepository → List EvidenceRepository) (changed : PreparedChange)
    (call : Tables → Store.Outcome α) : Prop where
  prepared : ∃ middle, Prepared env workspaceId state middle materialization update changed
  called : ∃ value written, call state.tables = (.ok value, written) ∧
    savedRecord after.tables workspaceId = savedRecord written workspaceId
  manifest : after.disk.entries [materializationManifestFile] =
    some (.file (.manifest materialization))
  context : after.disk.entries (evidenceFile "context.json") =
    some (.file (.context changed.evidence.context))

theorem writeAll_getElem? {files : List Replacement} {index : ℕ} {file : Replacement}
    (there : files[index]? = some file) (last : ∀ other ∈ files.drop (index + 1), other.path ≠ file.path)
    (state : ServiceState) :
    (writeAll files state).disk.entries file.path = some (.file file.document) := by
  obtain ⟨bound, same⟩ := List.getElem?_eq_some_iff.1 there
  have split : files = files.take index ++ file :: files.drop (index + 1) := by
    rw [← same, ← drop_eq_getElem_cons bound, take_append_drop]
  rw [split]
  exact writeAll_entries last state

variable {materialization : WorkspaceMaterialization}

theorem persisted_of_settles {α : Type} {middle start after : ServiceState}
    {update : List EvidenceRepository → List EvidenceRepository} {changed : PreparedChange}
    {call : Tables → Store.Outcome α}
    (prepared : Prepared env workspaceId state middle materialization update changed)
    (same : start.tables = state.tables) {value : α} (ok : (call state.tables).1 = .ok value)
    (settles : Settles workspaceId
      { writeAll (replacements env changed.materialization changed.evidence) start with
        tables := (call start.tables).2 } after) :
    Persisted env workspaceId state after materialization update changed call := by
  refine ⟨⟨middle, prepared⟩, ⟨value, (call state.tables).2, Prod.ext ok rfl, ?_⟩, ?_, ?_⟩
  · rw [settles.record, same]
  · rw [settles.entries _ (by decide) (by decide), ← prepared.manifest]
    have last : (replacements env changed.materialization changed.evidence)[6]? =
        some { path := [materializationManifestFile], existing := true,
               limit := maxGeneratedFileBytes, document := .manifest changed.materialization } := rfl
    exact writeAll_getElem? last (by simp [replacements]) start
  rw [settles.entries _ (by decide) (by decide)]
  have second : (replacements env changed.materialization changed.evidence)[1]? =
      some { path := evidenceFile "context.json", existing := false, limit := maxEvidenceFileBytes,
             document := .context changed.evidence.context } := rfl
  exact writeAll_getElem? second (by simp [replacements, evidenceFile]) start

def additionCall (env : ServiceEnv) (workspaceId : Uuid) (prepared : PreparedRepositoryAddition)
    (tables : Tables) : Store.Outcome WorkspaceView :=
  Store.addRepository env.store env.call workspaceId prepared.request tables

variable {repositoryId : String}

theorem replayed_of_replayedAddition {expectedEffectDigest : String}
    {result : WorkspaceRepositoryAdditionResult}
    (replayed : replayedAddition env workspaceId state repositoryId expectedEffectDigest =
      some result) : result.replayed = true := by
  unfold replayedAddition at replayed
  split at replayed
  · cases replayed
  split at replayed
  · obtain ⟨worktree, _, rfl⟩ := Option.map_eq_some_iff.1 replayed
    rfl
  cases replayed

/-- A repository was added. -/
structure Added (env : ServiceEnv) (workspaceId : Uuid) (state after : ServiceState)
    (request : AddWorkspaceRepositoryRequest) (prepared : PreparedRepositoryAddition)
    (materialization : WorkspaceMaterialization) (worktree : MaterializedWorktree)
    (changed : PreparedChange) : Prop where
  plan : prepareRepositoryAddition env workspaceId state request = .ok prepared
  receipt : Service.receipt env workspaceId state = .ok materialization
  free : state.disk.entries (leafOf prepared.planned.targetPath) = none
  made : addedWorktree env prepared = .ok worktree
  persisted : Persisted env workspaceId (state.link prepared.planned) after
    (addedMaterialization env materialization worktree prepared.preflight.effectDigest)
    (addedEvidence env prepared worktree) changed (additionCall env workspaceId prepared)

theorem persistAddition_ends (prepared : PreparedRepositoryAddition)
    (materialization : WorkspaceMaterialization) :
    Ends (persistAddition env workspaceId prepared materialization) fates state
      (fun result _ after => state.disk.entries (leafOf prepared.planned.targetPath) = none ∧
        addedWorktree env prepared = .ok result.1 ∧ ∀ settled, Settles workspaceId after settled →
          ∃ changed, Persisted env workspaceId (state.link prepared.planned) settled
            (addedMaterialization env materialization result.1 prepared.preflight.effectDigest)
            (addedEvidence env prepared result.1) changed (additionCall env workspaceId prepared))
      fun _ _ => True := by
  apply Ends.bind_mono (linkWorktree_ends _)
  · exact fun _ _ stopped => stopped
  rintro _ left linked ⟨free, rfl⟩
  apply Ends.bind
  apply Ends.attempt
  apply Ends.bind_ofExcept
  · intro error _ left
    apply Ends.bind
    exact .note (Ends.fail trivial)
  intro worktree made
  apply Ends.bind_mono (prepareChange_ends _ _)
  · intro stopped after _
    cases stopped with
    | none => trivial
    | some error =>
      intro left
      apply Ends.bind
      exact .note (Ends.fail trivial)
  intro changed left middle ready
  apply Ends.pure
  apply Ends.bind
  apply Ends.attempt
  apply Ends.mono (persistChange_ends changed _)
  · rintro _ left after ⟨⟨value, ok⟩, rfl⟩
    apply Ends.pure
    refine ⟨free, made, fun settled settles => ⟨changed, ?_⟩⟩
    rw [ready.retains.tables] at ok
    exact persisted_of_settles ready ready.retains.tables ok settles
  intro stopped after _
  cases stopped with
  | none => trivial
  | some error =>
    intro left
    apply Ends.bind
    exact .note (Ends.fail trivial)

theorem addWorkspaceRepository_ends (request : AddWorkspaceRepositoryRequest)
    (expectedEffectDigest : String) :
    Ends (addWorkspaceRepository env workspaceId request expectedEffectDigest) fates state
      (fun result _ after => (result.replayed = true ∧ after = state) ∨
          result.replayed = false ∧ ∃ prepared materialization worktree changed,
            result.repositoryId = worktree.repositoryId ∧
              Added env workspaceId state after request prepared materialization worktree changed)
      fun _ _ => True := by
  refine Ends.guard trivial fun _ => ?_
  apply Ends.bind_ofExcept
  · exact fun _ _ => trivial
  intro _ _
  apply Ends.bind_read
  split
  · rename_i result replayed
    refine Ends.pure (.inl ⟨?_, rfl⟩)
    exact replayed_of_replayedAddition replayed
  apply Ends.bind_read
  apply Ends.bind_ofExcept
  · exact fun _ _ => trivial
  intro prepared plan
  refine Ends.guard trivial fun _ => ?_
  apply Ends.bind_read
  apply Ends.bind_ofExcept
  · exact fun _ _ => trivial
  intro materialization received
  apply Ends.bind_mono (persistAddition_ends prepared materialization)
  · exact fun _ _ stopped => stopped
  intro ⟨worktree, _⟩ left persisted ⟨free, made, settled⟩
  apply Ends.bind_mono (attempt_settles (observeLifecycle_settles _ _))
  · exact fun _ _ _ => trivial
  intro _ left observed first
  apply Ends.bind_mono (attempt_settles publishReviewInbox_settles)
  · exact fun _ _ _ => trivial
  intro _ left published second
  apply Ends.bind_mono (recordGraph_settles _ _)
  · exact fun _ _ _ => trivial
  intro _ left after third
  apply Ends.bind_read
  apply Ends.bind_ofExcept
  · exact fun _ _ => trivial
  intro _ _
  obtain ⟨changed, done⟩ := settled after ((first.trans second).trans third)
  exact .pure (.inr ⟨rfl, prepared, materialization, worktree, changed, rfl,
    plan, received, free, made, done⟩)

structure Removed (env : ServiceEnv) (workspaceId : Uuid) (state after : ServiceState)
    (repositoryId : String) (prepared : PreparedRepositoryRemoval) (changed : PreparedChange) : Prop
    where
  plan : prepareRepositoryRemoval env workspaceId state repositoryId = .ok prepared
  persisted : Persisted env workspaceId state after prepared.materialization
    (List.filter fun repository => repository.repositoryId ≠ repositoryId) changed fun tables =>
      Store.removeRepository env.store env.call workspaceId repositoryId tables

theorem persistRemoval_ends (prepared : PreparedRepositoryRemoval) (repositoryId : String) :
    Ends (persistRemoval env workspaceId prepared repositoryId) fates state
      (fun _ _ after => ∀ settled, Settles workspaceId after settled →
        ∃ changed, Persisted env workspaceId state settled prepared.materialization
          (List.filter fun repository => repository.repositoryId ≠ repositoryId) changed fun tables =>
            Store.removeRepository env.store env.call workspaceId repositoryId tables)
      fun _ _ => True := by
  apply Ends.bind
  apply Ends.attempt
  apply Ends.mono (prepareChange_ends _ _)
  · intro changed left middle ready
    apply Ends.bind
    apply Ends.attempt
    apply Ends.mono (removeWorktree_ends _)
    · intro _ left unlinked gone
      have tables : unlinked.tables = state.tables := by
        obtain rfl | rfl := gone
        · exact ready.retains.tables
        exact ready.retains.tables
      apply Ends.bind
      apply Ends.attempt
      apply Ends.mono (persistChange_ends changed _)
      · rintro _ left after ⟨⟨value, ok⟩, rfl⟩
        apply Ends.pure
        intro settled settles
        rw [tables] at ok
        exact ⟨changed, persisted_of_settles ready tables ok settles⟩
      intro stopped after _
      cases stopped with
      | none => trivial
      | some error =>
        intro left
        apply Ends.bind
        exact .note (Ends.fail trivial)
    intro stopped after _
    cases stopped with
    | none => trivial
    | some error => exact fun left => Ends.fail trivial
  intro stopped after _
  cases stopped with
  | none => trivial
  | some error => exact fun left => Ends.fail trivial

theorem removeWorkspaceRepository_ends (repositoryId : String) :
    Ends (removeWorkspaceRepository env workspaceId repositoryId) fates state
      (fun result _ after => ∃ prepared changed,
        Removed env workspaceId state after result.repositoryId prepared changed)
      fun _ _ => True := by
  refine Ends.guard trivial fun _ => ?_
  apply Ends.bind_ofExcept
  · exact fun _ _ => trivial
  intro _ _
  apply Ends.bind_read
  apply Ends.bind_ofExcept
  · exact fun _ _ => trivial
  intro prepared plan
  apply Ends.bind_mono (persistRemoval_ends prepared _)
  · exact fun _ _ stopped => stopped
  intro _ left persisted settled
  apply Ends.bind_mono (attempt_settles publishReviewInbox_settles)
  · exact fun _ _ _ => trivial
  intro _ left published first
  apply Ends.bind_mono (recordGraph_settles _ _)
  · exact fun _ _ _ => trivial
  intro _ left after second
  apply Ends.bind_read
  apply Ends.bind_ofExcept
  · exact fun _ _ => trivial
  intro _ _
  obtain ⟨changed, done⟩ := settled after (first.trans second)
  exact .pure ⟨prepared, changed, plan, done⟩

/-! ### What the checks of an addition have found -/

variable {disk : Disk} {view : WorkspaceView}

theorem manifest_of_receipt {size : Document → ℕ}
    (received : readMaterializationReceipt size disk view = .ok materialization) :
    disk.entries [materializationManifestFile] = some (.file (.manifest materialization)) := by
  unfold readMaterializationReceipt at received
  split at received
  · cases received
  · cases received
  split at received
  · rename_i read
    split at received
    · cases received
      unfold readManifest at read
      split at read
      · cases read
      split at read
      · rename_i generated
        cases read
        unfold Disk.generatedFile at generated
        split at generated
        · rename_i document there
          split at generated
          · cases generated
            exact there
          cases generated
        cases generated
      cases read
    cases received
  cases received

theorem get_of_liveView {tables : Tables} (live : liveView env workspaceId tables = .ok view) :
    Store.get env.store workspaceId tables = .ok (some view) := by
  unfold liveView at live
  split at live
  · cases live
  · cases live
  rename_i got
  cases live
  exact got

theorem receipt_eq_ok (received : Service.receipt env workspaceId state = .ok materialization) :
    (∃ view, Store.get env.store workspaceId state.tables = .ok (some view)) ∧
      state.disk.entries [materializationManifestFile] =
        some (.file (.manifest materialization)) := by
  obtain ⟨view, live, received⟩ := bind_eq_ok.1 received
  exact ⟨⟨view, get_of_liveView live⟩, manifest_of_receipt received⟩

theorem context_of_evidenceDocuments {evidence : Evidence}
    (known : evidenceDocuments env disk = some evidence) :
    disk.entries (evidenceFile "context.json") = some (.file (.context evidence.context)) := by
  unfold evidenceDocuments at known
  split at known
  · split at known
    · rename_i read _ _ _
      cases known
      unfold readEvidenceFile at read
      split at read
      · rename_i document there
        split at read
        · cases read
          exact there
        cases read
      cases read
    · cases known
  cases known

variable {found : RepositorySummary}

theorem additionSource_eq_ok
    (source : additionSource env view materialization repositoryId = .ok found) :
    found.id = repositoryId ∧
      (∀ repository ∈ view.repositories, repository.repositoryId ≠ some repositoryId) ∧
        ∀ worktree ∈ materialization.worktrees, worktree.repositoryId ≠ repositoryId := by
  unfold additionSource at source
  split at source
  · cases source
  rename_i fresh
  rw [Bool.not_eq_true, Bool.or_eq_false_iff, any_eq_false, any_eq_false] at fresh
  obtain ⟨catalog, _, source⟩ := bind_eq_ok.1 source
  split at source
  · cases source
  rename_i first
  split at source
  · cases source
  cases source
  refine ⟨by simpa using find?_some first, ?_, ?_⟩
  · exact fun repository inside => by simpa using fresh.1 repository inside
  exact fun worktree inside => by simpa using fresh.2 worktree inside

theorem normalizedAddition_baseRef {baseRef : String} {addition : WorkspaceRepositoryRequest}
    (unused : ∀ repository ∈ view.repositories, repository.repositoryId ≠ some found.id)
    (normalized : normalizedAddition env view found baseRef = .ok addition) :
    addition.repositoryId = some found.id ∧ addition.baseRef = trim baseRef := by
  unfold normalizedAddition at normalized
  split at normalized
  · cases normalized
  rename_i request accepted
  split at normalized
  · cases normalized
  rename_i first
  cases normalized
  obtain ⟨-, -, -, -, same⟩ := (normalize_eq_ok_iff env.toLowercase).1 accepted
  have inside := mem_of_find?_eq_some first
  have named : addition.repositoryId = some found.id := by simpa using find?_some first
  rw [same] at inside
  have member := (sortRepositories_perm env.toLowercase _).mem_iff.1 inside
  obtain ⟨repository, listed, rfl⟩ := mem_map.1 member
  obtain old | new := mem_append.1 listed
  · obtain ⟨plan, saved, rfl⟩ := mem_map.1 old
    exact absurd named (unused plan saved)
  rw [mem_singleton.1 new]
  exact ⟨rfl, rfl⟩

theorem planAddition_eq_ok {request : WorkspaceRepositoryRequest} {planned : PlannedWorktree}
    (plan : planAddition env disk materialization found request = .ok planned) :
    planned.repository.id = found.id ∧ isHexOid planned.base.commitOid = true ∧
      planned.base.fullRef ≠ "" := by
  simp only [planAddition] at plan
  split at plan
  · cases plan
  rename_i source inspected
  split at plan
  · cases plan
  rename_i same
  split at plan
  · cases plan
  rename_i whole accepted
  split at plan
  · cases plan
  rename_i first
  cases plan
  unfold Worktree.preflight at accepted
  split at accepted
  · cases accepted
  obtain ⟨⟨root, created⟩, _, accepted⟩ := bind_eq_ok.1 accepted
  obtain ⟨repositories, made, accepted⟩ := bind_eq_ok.1 accepted
  cases accepted
  have ⟨each, _, _⟩ := planWorktrees_planned made
  cases each with
  | cons facts _ =>
    cases first
    have answered := facts.inspected.symm.trans inspected
    cases answered
    exact ⟨not_not.1 same, facts.commit, facts.resolved⟩

theorem newEvidence_of_plan {request : AddWorkspaceRepositoryRequest}
    {prepared : PreparedRepositoryAddition} {worktree : MaterializedWorktree}
    (plan : prepareRepositoryAddition env workspaceId state request = .ok prepared)
    (received : Service.receipt env workspaceId state = .ok materialization)
    (made : addedWorktree env prepared = .ok worktree) :
    Evidences (newEvidence prepared worktree) worktree ∧
      (newEvidence prepared worktree).requestedBaseRef = request.baseRef ∧
      worktree.repositoryId ∉ materialization.worktrees.map MaterializedWorktree.repositoryId := by
  unfold prepareRepositoryAddition at plan
  split at plan
  · cases plan
  rename_i valid
  obtain ⟨view, _, plan⟩ := bind_eq_ok.1 plan
  obtain ⟨again, received', plan⟩ := bind_eq_ok.1 plan
  cases received'.symm.trans received
  obtain ⟨found, source, plan⟩ := bind_eq_ok.1 plan
  obtain ⟨addition, normalized, plan⟩ := bind_eq_ok.1 plan
  obtain ⟨planned, accepted, plan⟩ := bind_eq_ok.1 plan
  cases plan
  have ⟨id, unsaved, unused⟩ := additionSource_eq_ok source
  have ⟨_, base⟩ := normalizedAddition_baseRef (id ▸ unsaved) normalized
  have ⟨own, commit, resolved⟩ := planAddition_eq_ok accepted
  have trimmed : trim request.baseRef = request.baseRef := by
    simp only [validAdditionRequest, Bool.not_eq_true', Bool.not_eq_false, Bool.and_eq_true,
      decide_eq_true_eq] at valid
    exact valid.2
  simp only [addedWorktree] at made
  split at made
  · cases made
  cases made
  refine ⟨⟨rfl, rfl, rfl, rfl, resolved, commit⟩, base.trans trimmed, ?_⟩
  intro listed
  obtain ⟨other, inside, same⟩ := mem_map.1 listed
  exact unused other inside (same.trans (own.trans id))

theorem materialization_of_removal {prepared : PreparedRepositoryRemoval}
    (plan : prepareRepositoryRemoval env workspaceId state repositoryId = .ok prepared) :
    ∃ materialization, Service.receipt env workspaceId state = .ok materialization ∧
      prepared.materialization =
        removedMaterialization env workspaceId materialization repositoryId := by
  unfold prepareRepositoryRemoval at plan
  obtain ⟨materialization, received, plan⟩ := bind_eq_ok.1 plan
  refine ⟨materialization, received, ?_⟩
  split at plan
  · cases plan
  split at plan
  · cases plan
  obtain ⟨catalog, _, plan⟩ := bind_eq_ok.1 plan
  split at plan
  · cases plan
  simp only at plan
  split at plan
  · cases plan
  split at plan
  · cases plan
  cases plan
  rfl

end Calls

/-! ### Runs -/

/-- A record, a manifest and a context that belong together. -/
structure Kept (store : WorkspaceStore) (workspaceId : Uuid) (state : ServiceState)
    (bases : List (String × String)) (record : WorkspaceRecord)
    (manifest : WorkspaceMaterialization) (context : WorkspaceEvidenceContext) : Prop where
  saved : savedRecord state.tables workspaceId = some record
  receipt : state.disk.entries [materializationManifestFile] = some (.file (.manifest manifest))
  evidence : state.disk.entries (evidenceFile "context.json") = some (.file (.context context))
  documents : ∀ view, Shows store record view → Documents view manifest context bases
  named : ∀ saved ∈ bases, saved.1 ∈ manifest.worktrees.map MaterializedWorktree.repositoryId

section Kept

variable {store : WorkspaceStore} {workspaceId : Uuid} {state after : ServiceState}
  {bases : List (String × String)} {record : WorkspaceRecord}
  {manifest : WorkspaceMaterialization} {context : WorkspaceEvidenceContext}

theorem describesWorkspace_congr {first second : WorkspaceView} {written : WorkspaceRecord}
    (shows : Shows store record first) (other : Shows store written second)
    (sameId : written.workspaceId = record.workspaceId)
    (sameVersion : written.recordVersion = record.recordVersion)
    (sameTitle : written.title = record.title) (sameIntent : written.intent = record.intent)
    (sameProvider : written.preferredProvider = record.preferredProvider) :
    describesWorkspace second manifest context = describesWorkspace first manifest context := by
  rw [describesWorkspace, describesWorkspace, other.workspaceId, other.recordVersion, other.title,
    other.intent, other.preferredProvider, shows.workspaceId, shows.recordVersion, shows.title,
    shows.intent, shows.preferredProvider, sameId, sameVersion, sameTitle, sameIntent, sameProvider]

theorem Kept.of_same (kept : Kept store workspaceId state bases record manifest context)
    (sameRecord : savedRecord after.tables workspaceId = savedRecord state.tables workspaceId)
    (sameManifest : after.disk.entries [materializationManifestFile] =
      state.disk.entries [materializationManifestFile])
    (sameContext : after.disk.entries (evidenceFile "context.json") =
      state.disk.entries (evidenceFile "context.json")) :
    Kept store workspaceId after bases record manifest context :=
  ⟨sameRecord.trans kept.saved, sameManifest.trans kept.receipt,
    sameContext.trans kept.evidence, kept.documents, kept.named⟩

theorem kept_of_published {env : SetupEnv} {disk written : Disk} {view : WorkspaceView}
    {preflight : WorkspacePreflight} {plan : WorktreePlan}
    (published : Published env disk view preflight plan manifest written)
    (shows : Shows store record view) (saved : savedRecord after.tables workspaceId = some record)
    (same : after.disk = written) :
    ∃ context, Kept store workspaceId after (savedBases view manifest) record manifest context := by
  obtain ⟨context, known, done⟩ := published.written
  have documents := published_documents published known
  obtain ⟨_, manifestSame, _, manifestThere⟩ := done _ mem_setupSteps_manifest
  cases manifestSame
  obtain ⟨_, contextSame, _, contextThere⟩ := done _ mem_setupSteps_context
  cases contextSame
  refine ⟨context, saved, ?_, ?_, ?_, ?_⟩
  · rw [same]
    exact manifestThere
  · rw [same]
    exact contextThere
  · intro other others
    refine { documents with workspace := ?_ }
    rw [describesWorkspace_congr shows others rfl rfl rfl rfl rfl]
    exact documents.workspace
  intro base inside
  obtain ⟨pair, member, rfl⟩ := mem_map.1 inside
  exact mem_map_of_mem (of_mem_zip member).2

variable {changed : PreparedChange} {env : ServiceEnv}

theorem Prepared.context_eq {middle : ServiceState} {materialization : WorkspaceMaterialization}
    {update : List EvidenceRepository → List EvidenceRepository}
    (prepared : Prepared env workspaceId state middle materialization update changed)
    (there : state.disk.entries (evidenceFile "context.json") = some (.file (.context context))) :
    changed.evidence.context = { context with
        repositories := update context.repositories
        allowedRepositoryIds := (update context.repositories).map EvidenceRepository.repositoryId } := by
  obtain ⟨evidence, known, made⟩ := prepared.evidence
  have same := context_of_evidenceDocuments known
  rw [there] at same
  simp only [Option.some.injEq, Entry.file.injEq, Document.context.injEq] at same
  unfold changedEvidence at made
  split at made
  · rw [same, ← Option.some.inj made]
  cases made

theorem Kept.added {request : AddWorkspaceRepositoryRequest}
    {prepared : PreparedRepositoryAddition} {materialization : WorkspaceMaterialization}
    {worktree : MaterializedWorktree}
    (kept : Kept env.store workspaceId state bases record manifest context)
    (added : Added env workspaceId state after request prepared materialization worktree changed) :
    ∃ record manifest context, Kept env.store workspaceId after
      ((worktree.repositoryId, request.baseRef) :: bases) record manifest context := by
  obtain ⟨⟨view, got⟩, there⟩ := receipt_eq_ok added.receipt
  obtain rfl : materialization = manifest := by
    rw [kept.receipt] at there
    simpa using there.symm
  obtain ⟨_, _, saved, shows, _⟩ := Store.get_eq_ok got
  obtain rfl := Option.some.inj (saved.symm.trans kept.saved)
  have ⟨evidences, base, fresh⟩ := newEvidence_of_plan added.plan added.receipt added.made
  have documents := kept.documents view shows
  -- the new worktree takes a free path, so the context is still there
  have contextThere : (state.link prepared.planned).disk.entries (evidenceFile "context.json") =
      some (.file (.context context)) := by
    rw [← kept.evidence]
    apply Function.update_of_ne
    intro same
    have free := added.free
    rw [← same, kept.evidence] at free
    cases free
  obtain ⟨⟨middle, ready⟩, ⟨value, written, called, record⟩, manifestThere, newContext⟩ :=
    added.persisted
  have contextSame := ready.context_eq contextThere
  obtain ⟨error, failed, _⟩ | ⟨shown, plan, changedRecord, ok, _, _, _, rewrites, _, before, now, start,
      rfl⟩ := Store.addRepository_cases got called
  · cases failed
  obtain rfl := Option.some.inj (start.symm.trans saved)
  rw [contextSame] at newContext
  have worktrees : (addedMaterialization env materialization worktree
      prepared.preflight.effectDigest).worktrees.Perm (materialization.worktrees ++ [worktree]) :=
    perm_insertionSort _ _
  have repositories : (addedEvidence env prepared worktree context.repositories).Perm
      (context.repositories ++ [newEvidence prepared worktree]) := perm_insertionSort _ _
  have unused : worktree.repositoryId ∉ context.repositories.map EvidenceRepository.repositoryId :=
    fun listed => fresh (documents.ids.mem_iff.1 listed)
  refine ⟨_, _, _, record.trans rewrites.saved, manifestThere, newContext, ?_, ?_⟩
  · intro other others
    refine ⟨?_, rfl, ?_, ?_, ?_, ?_⟩
    · rw [describesWorkspace_congr shows others rfl rfl rfl rfl rfl]
      have workspace := documents.workspace
      simp only [describesWorkspace, Bool.and_eq_true, decide_eq_true_eq] at workspace ⊢
      refine ⟨workspace.1, ?_⟩
      rw [worktrees.length_eq, repositories.length_eq, length_append, length_append, workspace.2]
      rfl
    · rw [(worktrees.map _).nodup_iff, map_append, nodup_append]
      refine ⟨documents.distinct, nodup_singleton _, fun id old other new same => ?_⟩
      rw [map_singleton, mem_singleton] at new
      exact fresh (new ▸ same ▸ old)
    · refine (repositories.map _).trans (.trans ?_ (worktrees.map _).symm)
      rw [map_append, map_append]
      exact documents.ids.append (.refl _)
    · intro repository member
      obtain old | new := mem_append.1 (repositories.mem_iff.1 member)
      · obtain ⟨own, inside, facts⟩ := documents.evidence repository old
        exact ⟨own, worktrees.mem_iff.2 (mem_append_left _ inside), facts⟩
      rw [mem_singleton.1 new]
      exact ⟨worktree, worktrees.mem_iff.2 (by simp), evidences⟩
    intro repository member requested
    rw [mem_cons]
    obtain old | new := mem_append.1 (repositories.mem_iff.1 member)
    · rw [documents.bases repository old requested, or_iff_right]
      intro same
      exact unused ((Prod.mk.inj same).1 ▸ mem_map_of_mem old)
    rw [mem_singleton.1 new, base, or_iff_left]
    · exact ⟨fun same => (Prod.mk.inj same).2.symm, fun same => same ▸ rfl⟩
    exact fun known => fresh (kept.named _ known)
  intro known inside
  rw [(worktrees.map _).mem_iff, map_append, mem_append]
  obtain rfl | old := mem_cons.1 inside
  · exact .inr (by simp)
  exact .inl (kept.named known old)

theorem Kept.removed {repositoryId : String} {prepared : PreparedRepositoryRemoval}
    (kept : Kept env.store workspaceId state bases record manifest context)
    (removed : Removed env workspaceId state after repositoryId prepared changed) :
    ∃ record manifest context, Kept env.store workspaceId after
      (bases.filter fun saved => saved.1 ≠ repositoryId) record manifest context := by
  obtain ⟨materialization, received, made⟩ := materialization_of_removal removed.plan
  obtain ⟨⟨view, got⟩, there⟩ := receipt_eq_ok received
  obtain rfl : materialization = manifest := by
    rw [kept.receipt] at there
    simpa using there.symm
  obtain ⟨_, _, saved, shows, _⟩ := Store.get_eq_ok got
  obtain rfl := Option.some.inj (saved.symm.trans kept.saved)
  have documents := kept.documents view shows
  obtain ⟨⟨middle, ready⟩, ⟨value, written, called, record⟩, manifestThere, newContext⟩ :=
    removed.persisted
  have contextSame := ready.context_eq kept.evidence
  obtain ⟨error, failed, _⟩ | ⟨shown, changedRecord, ok, rewrites, _, before, now, start, rfl⟩ :=
    Store.removeRepository_cases got called
  · cases failed
  obtain rfl := Option.some.inj (start.symm.trans saved)
  rw [contextSame] at newContext
  rw [made] at manifestThere
  have ids : ((context.repositories.filter fun repository =>
        repository.repositoryId ≠ repositoryId).map EvidenceRepository.repositoryId).Perm
      ((materialization.worktrees.filter fun worktree =>
        worktree.repositoryId ≠ repositoryId).map MaterializedWorktree.repositoryId) := by
    have kept := documents.ids.filter fun id => id ≠ repositoryId
    rw [filter_map, filter_map] at kept
    exact kept
  refine ⟨_, _, _, record.trans rewrites.saved, manifestThere, newContext, ?_, ?_⟩
  · intro other others
    refine ⟨?_, rfl, ?_, ids, ?_, ?_⟩
    · rw [describesWorkspace_congr shows others rfl rfl rfl rfl rfl]
      have workspace := documents.workspace
      simp only [describesWorkspace, Bool.and_eq_true, decide_eq_true_eq] at workspace ⊢
      refine ⟨workspace.1, ?_⟩
      have lengths := ids.length_eq
      rw [length_map, length_map] at lengths
      exact lengths
    · exact documents.distinct.sublist (filter_sublist.map _)
    · intro repository member
      obtain ⟨old, other⟩ := mem_filter.1 member
      obtain ⟨own, inside, facts⟩ := documents.evidence repository old
      refine ⟨own, mem_filter.2 ⟨inside, ?_⟩, facts⟩
      rw [← facts.id]
      exact other
    intro repository member requested
    obtain ⟨old, other⟩ := mem_filter.1 member
    rw [mem_filter, documents.bases repository old requested, and_iff_left other]
  intro known inside
  obtain ⟨old, other⟩ := mem_filter.1 inside
  obtain ⟨own, listed, same⟩ := mem_map.1 (kept.named known old)
  refine mem_map.2 ⟨own, mem_filter.2 ⟨listed, ?_⟩, same⟩
  rw [same]
  exact other

end Kept

/-- The setup of a workspace, then additions and removals of repositories in any order, each
successful, and other calls that leave the record, the manifest and the context. -/
inductive Run (store : WorkspaceStore) (workspaceId : Uuid) :
    ServiceState → List (String × String) → Prop where
  | setup {env : SetupEnv} {view : WorkspaceView} {record : WorkspaceRecord} {disk : Disk}
      {after : ServiceState} {expectedEffectDigest : String} {fates left : List Fate}
      {result : MaterializeWorkspaceResult} (shows : Shows store record view)
      (saved : savedRecord after.tables workspaceId = some record)
      (ended : materializeWorkspace env view expectedEffectDigest fates disk =
        { outcome := .value result, fates := left, store := after.disk })
      (fresh : result.replayed = false) :
      Run store workspaceId after (savedBases view result.materialization)
  | add {env : ServiceEnv} {before after : ServiceState} {bases : List (String × String)}
      {request : AddWorkspaceRepositoryRequest} {expectedEffectDigest : String}
      {fates left : List Fate} {result : WorkspaceRepositoryAdditionResult}
      (run : Run store workspaceId before bases) (same : env.store = store)
      (ended : addWorkspaceRepository env workspaceId request expectedEffectDigest fates before =
        { outcome := .value result, fates := left, store := after }) :
      Run store workspaceId after
        (if result.replayed then bases else (result.repositoryId, request.baseRef) :: bases)
  | remove {env : ServiceEnv} {before after : ServiceState} {bases : List (String × String)}
      {repositoryId : String} {fates left : List Fate} {result : WorkspaceRepositoryRemovalResult}
      (run : Run store workspaceId before bases) (same : env.store = store)
      (ended : removeWorkspaceRepository env workspaceId repositoryId fates before =
        { outcome := .value result, fates := left, store := after }) :
      Run store workspaceId after (bases.filter fun saved => saved.1 ≠ result.repositoryId)
  | other {before after : ServiceState} {bases : List (String × String)}
      (run : Run store workspaceId before bases)
      (record : savedRecord after.tables workspaceId = savedRecord before.tables workspaceId)
      (manifest : after.disk.entries [materializationManifestFile] =
        before.disk.entries [materializationManifestFile])
      (context : after.disk.entries (evidenceFile "context.json") =
        before.disk.entries (evidenceFile "context.json")) :
      Run store workspaceId after bases

theorem Run.kept {store : WorkspaceStore} {workspaceId : Uuid} {state : ServiceState}
    {bases : List (String × String)} (run : Run store workspaceId state bases) :
    ∃ record manifest context, Kept store workspaceId state bases record manifest context := by
  induction run with
  | setup shows saved ended fresh =>
    obtain ⟨value, _, _⟩ := ends_iff.1 (materializeWorkspace_published)
    obtain ⟨preflight, plan, published⟩ := value _ _ _ ended fresh
    obtain ⟨context, kept⟩ := kept_of_published published shows saved rfl
    exact ⟨_, _, context, kept⟩
  | add run same ended ih =>
    subst same
    obtain ⟨record, manifest, context, kept⟩ := ih
    obtain ⟨value, _, _⟩ := ends_iff.1 (addWorkspaceRepository_ends _ _)
    obtain ⟨replayed, rfl⟩ | ⟨replayed, prepared, materialization, worktree, changed, id, added⟩ :=
      value _ _ _ ended
    · rw [replayed, if_pos rfl]
      exact ⟨record, manifest, context, kept⟩
    rw [replayed, if_neg Bool.false_ne_true, id]
    exact kept.added added
  | remove run same ended ih =>
    subst same
    obtain ⟨record, manifest, context, kept⟩ := ih
    obtain ⟨value, _, _⟩ := ends_iff.1 (removeWorkspaceRepository_ends _)
    obtain ⟨prepared, changed, removed⟩ := value _ _ _ ended
    exact kept.removed removed
  | other run sameRecord sameManifest sameContext ih =>
    obtain ⟨record, manifest, context, kept⟩ := ih
    exact ⟨record, manifest, context, kept.of_same sameRecord sameManifest sameContext⟩

/-- In every state of every run the context is valid, for the views of the saved record and for the
manifest, exactly if each lookup by label finds the base with which the repository was saved. -/
theorem evidence_context_validates_iff {store : WorkspaceStore} {workspaceId : Uuid}
    {state : ServiceState} {bases : List (String × String)}
    (run : Run store workspaceId state bases) :
    ∃ record manifest context, savedRecord state.tables workspaceId = some record ∧
      state.disk.entries [materializationManifestFile] = some (.file (.manifest manifest)) ∧
      state.disk.entries (evidenceFile "context.json") = some (.file (.context context)) ∧
      ∀ view, Shows store record view →
        ((∃ allowed, validateWorkspaceEvidenceContext view manifest context = .ok allowed) ↔
          NamesBases view manifest bases) := by
  obtain ⟨record, manifest, context, kept⟩ := run.kept
  exact ⟨record, manifest, context, kept.saved, kept.receipt, kept.evidence, fun view shows =>
    (kept.documents view shows).validates_iff⟩

open ChangeRequests (firstId secondId pinnedView pinned_normal)

def pinnedInspection (id leaf : String) : RepositoryInspection :=
  { sampleInspection "app" with
    id := id
    worktreeRoot := { absolute := true, components := ["src", leaf] } }

def pinnedEnv : SetupEnv :=
  { sampleEnv "app" with
    catalog := .ok
      { repositoryRootDisplayPath := "/src"
        repositories :=
          [{ id := firstId, label := "app", checkoutLeaf := "one", displayPath := "/src/one",
             checkoutAliases := [], defaultBranch := "main" },
            { id := secondId, label := "app", checkoutLeaf := "two", displayPath := "/src/two",
              checkoutAliases := [], defaultBranch := "main" }]
        skippedEntries := 0 }
    git :=
      { sampleAnswers "app" with
        inspectRepository := fun path =>
          .ok (if path.fileName = some "one" then pinnedInspection firstId "one"
            else pinnedInspection secondId "two") } }

/-- The plans of `pinnedView`, with the leaves that the store gives them. -/
def pinnedRecord : WorkspaceRecord where
  schemaVersion := 1
  workspaceId := 1
  recordVersion := 1
  intent := pinnedView.intent
  title := pinnedView.title
  displayName := none
  preferredProvider := .codex
  phase := .draft
  repositories := pinnedView.repositories.map fun plan =>
    { plan with worktreeLeaf := Store.repositoryLeaf plan.label plan.requestId }
  runtime := none
  planning := none
  workspaceRootId := "main"
  workspaceLeaf := Store.workspaceLeaf pinnedView.intent 1
  createdAtUnixMs := 0
  updatedAtUnixMs := 0

def storedView : WorkspaceView :=
  { pinnedView with
    repositories := pinnedRecord.repositories
    workspaceLeaf := pinnedRecord.workspaceLeaf
    workspaceDisplayPath := "/work/" ++ pinnedRecord.workspaceLeaf }

def storedDisk : Disk :=
  { sampleDisk with canonicalRoot := some (workspacePath storedView) }

def writesValidContext (env : SetupEnv) (view : WorkspaceView) (disk : Disk) : Option Bool :=
  match preparePreflight env disk view with
  | .ok prepared =>
    match runSetup env view prepared [] disk with
    | { outcome := .value result, fates := _, store := after } =>
      if prepared.preflight.ready && !result.replayed then
        match after.entries (evidenceFile "context.json") with
        | some (.file (.context context)) =>
          some (validateWorkspaceEvidenceContext view result.materialization context).isOk
        | _ => none
      else none
    | _ => none
  | .error _ => none

theorem run_of_writesValidContext {env : SetupEnv} {view : WorkspaceView} {disk : Disk} {valid : Bool}
    (new : disk.entries [materializationManifestFile] = none)
    (writes : writesValidContext env view disk = some valid) :
    ∃ digest result left after context, result.replayed = false ∧
      materializeWorkspace env view digest [] disk =
        { outcome := .value result, fates := left, store := after } ∧
      after.entries (evidenceFile "context.json") = some (.file (.context context)) ∧
      (validateWorkspaceEvidenceContext view result.materialization context).isOk = valid := by
  unfold writesValidContext at writes
  split at writes
  · rename_i prepared made
    split at writes
    · rename_i result left after ended
      split at writes
      · rename_i passes
        rw [Bool.and_eq_true, Bool.not_eq_true'] at passes
        split at writes
        · rename_i context there
          refine ⟨prepared.preflight.effectDigest, result, left, after, context, passes.2, ?_, there,
            Option.some.inj writes⟩
          rw [materializeWorkspace_of_ready new made passes.1, ended]
        cases writes
      cases writes
    cases writes
  cases writes

theorem pinned_writes : writesValidContext pinnedEnv pinnedView sampleDisk = some false := by
  decide +kernel

theorem stored_writes : writesValidContext pinnedEnv storedView storedDisk = some false := by
  decide +kernel

/-- Setup writes a context that is not valid: the base of the second repository is looked up at the
first one. -/
theorem pinned_context_invalid :
    ¬ ∀ (env : SetupEnv) (view : WorkspaceView) (disk after : Disk) (digest : String)
        (fates left : List Fate) (result : MaterializeWorkspaceResult)
        (context : WorkspaceEvidenceContext),
      (viewRequest view).normalize env.toLowercase = .ok (viewRequest view) →
        materializeWorkspace env view digest fates disk =
            { outcome := .value result, fates := left, store := after } →
          result.replayed = false →
            after.entries (evidenceFile "context.json") = some (.file (.context context)) →
              ∃ allowed, validateWorkspaceEvidenceContext view result.materialization context =
                .ok allowed := by
  intro always
  have new : sampleDisk.entries [materializationManifestFile] = none := rfl
  obtain ⟨digest, result, left, after, context, fresh, ended, there, invalid⟩ :=
    run_of_writesValidContext new pinned_writes
  have normal : (viewRequest pinnedView).normalize pinnedEnv.toLowercase =
      .ok (viewRequest pinnedView) := pinned_normal
  have ⟨allowed, valid⟩ := always _ _ _ _ _ _ _ _ _ normal ended fresh there
  exact Bool.false_ne_true (invalid.symm.trans (by rw [valid]; rfl))

def pinnedStore : WorkspaceStore :=
  { Store.sampleStore with
    toLowercase := pinnedEnv.toLowercase
    workspaceRoot :=
      { id := "main"
        path := { absolute := true, components := ["work"] }
        validId := Store.validRootId_main
        absolute := rfl
        noParent := by decide } }

theorem pinned_shows : Shows pinnedStore pinnedRecord storedView :=
  ⟨rfl, rfl, rfl, rfl, rfl, rfl, rfl, rfl, rfl, rfl, by decide +kernel, rfl⟩

theorem pinned_valid : Store.validateRecord pinnedStore pinnedRecord = .ok () := by
  decide +kernel

/-- The service over that store, with no agent runs to remove and a graph that is not built. -/
def pinnedService : ServiceEnv :=
  { pinnedEnv with
    store := pinnedStore
    call := Store.sampleEnv 1
    idle := .ok ()
    retainAgentRuns := fun _ => .ok none
    additionJson := fun _ => []
    removalJson := fun _ _ _ => []
    indexGraph := fun materialization => .error
      { schemaVersion := evidenceSchemaVersion
        workspaceId := materialization.workspaceId
        status := .notStarted
        graphDisplayPath := none
        detail := "" }
    retained := by
      intro disk kept none
      cases none }

def tablesOf (workspaceId : Uuid) (record : WorkspaceRecord) : Tables :=
  { Tables.empty with
    projection := (∅ : Std.ExtTreeMap Uuid Store.ProjectionRow).insert workspaceId
      { recordVersion := 1, recordJson := record.toJson.print, updatedAtUnixMs := 0 } }

theorem savedRecord_tablesOf (workspaceId : Uuid) (record : WorkspaceRecord) :
    savedRecord (tablesOf workspaceId record) workspaceId = some record := by
  simp [savedRecord, tablesOf, Json.parse_print, WorkspaceRecord.ofJson_toJson]

def pinnedState (after : Disk) : ServiceState where
  tables := tablesOf 1 pinnedRecord
  disk := after
  worktrees := []

/-- The record is one that the store accepts. -/
theorem evidence_context_validates_iff_pinned :
    ∃ (state : ServiceState) (bases : List (String × String)) (record : WorkspaceRecord)
        (manifest : WorkspaceMaterialization) (context : WorkspaceEvidenceContext),
      (savedRecord state.tables 1 = some record ∧ Store.validateRecord pinnedStore record = .ok ()) ∧
      state.disk.entries [materializationManifestFile] = some (.file (.manifest manifest)) ∧
      state.disk.entries (evidenceFile "context.json") = some (.file (.context context)) ∧
      ∀ view, Shows pinnedStore record view →
        ((∃ allowed, validateWorkspaceEvidenceContext view manifest context = .ok allowed) ↔
          NamesBases view manifest bases) := by
  have new : storedDisk.entries [materializationManifestFile] = none := rfl
  obtain ⟨digest, result, left, after, context, fresh, ended, _, _⟩ :=
    run_of_writesValidContext new stored_writes
  have saved : savedRecord (pinnedState after).tables 1 = some pinnedRecord :=
    savedRecord_tablesOf 1 pinnedRecord
  have run : Run pinnedStore 1 (pinnedState after) (savedBases storedView result.materialization) :=
    Run.setup pinned_shows saved ended fresh
  obtain ⟨record, manifest, context, isSaved, receipt, evidence, iff⟩ :=
    evidence_context_validates_iff run
  have same := Option.some.inj (isSaved.symm.trans saved)
  exact ⟨pinnedState after, _, record, manifest, context, ⟨isSaved, same ▸ pinned_valid⟩, receipt,
    evidence, iff⟩

end Wts.RepositorySet
