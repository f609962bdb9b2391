/-
Module: Wts.Proofs.WorkspaceSetup
Purpose: The manifest that setup publishes is accepted by its three readers exactly when the workspace
  path is canonical and every repository that is saved without an identifier has, up to the case of
  ASCII letters, the label of the local repository that setup selected for it.
Trusted boundary: none
Main exports: published_manifest_accepted_iff
-/
import Wts.App.WorkspaceSetup
import Wts.Library.Traverse

namespace Wts.Materialization

open Text Workspace Worktree Interrupt List Traverse
open Interrupt.Proc
open Store (WorkspaceView WorkspaceRepositoryPlan)
open Wts.CodeWorkspace (RepositorySummary RepositoryCatalog eqIgnoreAsciiCase)

section Matching

variable {pairs before rest : List (WorkspaceRepositoryPlan × MaterializedWorktree)}
  {pair : WorkspaceRepositoryPlan × MaterializedWorktree}

def matchedUpTo (before rest : ℕ) : List Bool :=
  List.replicate before true ++ List.replicate rest false

theorem matchedUpTo_getElem? {before rest index : ℕ} :
    (matchedUpTo before rest)[index]? = some false ↔ before ≤ index ∧ index < before + rest := by
  unfold matchedUpTo
  by_cases early : index < before
  · simp [getElem?_append_left, early]
  have late : before ≤ index := by omega
  simp [getElem?_append_right, getElem?_replicate, late]
  omega

theorem set_matchedUpTo {before rest : ℕ} :
    (matchedUpTo before (rest + 1)).set before true = matchedUpTo (before + 1) rest := by
  rw [matchedUpTo, replicate_succ, set_append_right _ _ (by simp)]
  simp [matchedUpTo, replicate_succ', append_assoc]

theorem position_unique (distinct : (pairs.map fun pair => pair.2.repositoryId).Nodup)
    {first second : ℕ} {one other : WorkspaceRepositoryPlan × MaterializedWorktree}
    (atFirst : pairs[first]? = some one) (atSecond : pairs[second]? = some other)
    (same : one.2.repositoryId = other.2.repositoryId) : first = second := by
  have bound := (List.getElem?_eq_some_iff.1 atFirst).1
  refine (getElem?_inj (by simpa using bound) distinct).1 ?_
  simp [getElem?_map, atFirst, atSecond, same]

section

variable (distinct : (pairs.map fun pair => pair.2.repositoryId).Nodup)
  (only : ∀ first ∈ pairs, ∀ second ∈ pairs, selects first.1 second.2 = true → second.2.repositoryId = first.2.repositoryId)
include distinct only

theorem candidates_eq (split : pairs = before ++ pair :: rest) :
    candidates pair.1 (pairs.map Prod.snd) (matchedUpTo before.length (rest.length + 1)) =
      if selects pair.1 pair.2 = true then [before.length] else [] := by
  have own : pairs[before.length]? = some pair := by simp [split]
  have total : pairs.length = before.length + (rest.length + 1) := by simp [split]
  have chosen : ∀ index ∈ List.range (pairs.map Prod.snd).length,
      ((matchedUpTo before.length (rest.length + 1))[index]? = some false &&
        ((pairs.map Prod.snd)[index]?).any (selects pair.1)) =
      (index = before.length && selects pair.1 pair.2) := by
    intro index inside
    have bound : index < pairs.length := by simpa using inside
    have there : pairs[index]? = some pairs[index] := getElem?_eq_getElem bound
    rw [getElem?_map, there, Option.map_some, Option.any_some]
    by_cases here : index = before.length
    · subst here
      have entry : pairs[before.length] = pair := Option.some.inj (there.symm.trans own)
      simp [matchedUpTo_getElem?, entry]
    have refused : selects pair.1 pairs[index].2 = false := by
      by_contra selected
      have same := only pair (mem_of_getElem? own) pairs[index] (getElem_mem bound)
        (by simpa using selected)
      exact here (position_unique distinct there own same)
    simp [here, refused]
  rw [candidates, filter_congr chosen]
  by_cases selected : selects pair.1 pair.2 = true
  · have member : before.length ∈ List.range (pairs.map Prod.snd).length := by
      simp [total]
    simp only [selected, Bool.and_true, if_true]
    rw [filter_eq, count_eq_one_of_mem nodup_range member]
    rfl
  simp [selected]

theorem matchPlans_iff (split : pairs = before ++ rest) :
    matchPlans (pairs.map Prod.snd) (rest.map Prod.fst) (matchedUpTo before.length rest.length) =
      true ↔ ∀ pair ∈ rest, selects pair.1 pair.2 = true := by
  induction rest generalizing before with
  | nil => simp [matchPlans, matchedUpTo]
  | cons pair rest ih =>
    rw [map_cons, matchPlans, length_cons, candidates_eq distinct only split]
    by_cases selected : selects pair.1 pair.2 = true
    · have longer : pairs = (before ++ [pair]) ++ rest := by simp [split]
      have next := ih longer
      rw [length_append, length_singleton] at next
      simp only [selected, if_true, set_matchedUpTo, next, forall_mem_cons, true_and]
    simp [selected]

theorem matches_iff :
    materializationMatchesRepositoryPlans (pairs.map Prod.fst) (pairs.map Prod.snd) = true ↔
      ∀ pair ∈ pairs, selects pair.1 pair.2 = true := by
  have whole : pairs = [] ++ pairs := (nil_append pairs).symm
  have start := matchPlans_iff distinct only whole
  have ids : ((pairs.map Prod.snd).map MaterializedWorktree.repositoryId).Nodup := by
    rw [map_map]
    exact distinct
  simp only [materializationMatchesRepositoryPlans, length_map, Bool.and_eq_true,
    decide_eq_true_eq, ids, and_self, true_and]
  exact start

end
end Matching

section Plans

theorem isAsciiHexdigit_toLower {c : Char} (digit : isAsciiHexdigit c = true) :
    isAsciiHexdigit c.toLower = true := by
  have table : ∀ n < 128, isAsciiHexdigit (Char.ofNat n) = true →
      isAsciiHexdigit (Char.ofNat n).toLower = true := by decide
  have small : c.toNat < 128 := by
    simp only [isAsciiHexdigit, Char.isDigit, Bool.or_eq_true, Bool.and_eq_true, decide_eq_true_eq,
      Char.le_def, UInt32.le_iff_toNat_le] at digit
    have same : c.toNat = c.val.toNat := rfl
    rcases digit with (decimal | lower) | upper
    · exact lt_of_le_of_lt (same ▸ decimal.2) (by decide)
    · exact lt_of_le_of_lt (same ▸ lower.2) (by decide)
    exact lt_of_le_of_lt (same ▸ upper.2) (by decide)
  have entry := table c.toNat small
  rw [Char.ofNat_toNat] at entry
  exact entry digit

variable {value commitOid requested branchName : String}

theorem isHexOid_lower (valid : isHexOid value = true) :
    isHexOid (Worktree.toAsciiLowercase value) = true := by
  simp only [isHexOid, Bool.and_eq_true] at valid ⊢
  obtain ⟨size, digits⟩ := valid
  refine ⟨by simpa [Worktree.toAsciiLowercase] using size, ?_⟩
  simp only [Worktree.toAsciiLowercase, String.toList_ofList, all_map, all_eq_true]
    at digits ⊢
  intro c member
  exact isAsciiHexdigit_toLower (digits c member)

variable {answers : GitAnswers} {fullRef : String} {root : PathBuf}

theorem commitForRef_valid
    (found : commitForRef answers root fullRef = .ok (some commitOid)) : isHexOid commitOid = true := by
  unfold commitForRef at found
  obtain ⟨text, -, rest⟩ := bind_eq_ok.1 found
  cases text with
  | none => cases rest
  | some text =>
    simp only at rest
    split at rest
    · rename_i valid
      cases rest
      exact valid
    cases rest

theorem firstCommit_valid {candidates : List String}
    (found : firstCommit answers root candidates = .ok (fullRef, commitOid)) :
    fullRef ∈ candidates ∧ isHexOid commitOid = true := by
  induction candidates with
  | nil => cases found
  | cons candidate rest ih =>
    unfold firstCommit at found
    obtain ⟨commit, answered, next⟩ := bind_eq_ok.1 found
    cases commit with
    | none =>
      have ⟨member, valid⟩ := ih next
      exact ⟨mem_cons_of_mem _ member, valid⟩
    | some commit =>
      cases next
      exact ⟨mem_cons_self, commitForRef_valid answered⟩

theorem ne_empty_of_isHexOid (valid : isHexOid value = true) : value ≠ "" := by
  intro empty
  rw [empty] at valid
  simp [isHexOid] at valid

theorem ne_empty_of_mem_baseCandidates
    (member : fullRef ∈ (baseCandidates requested).2) : fullRef ≠ "" := by
  have prefixed : ∃ start name, start ≠ "" ∧ fullRef = start ++ name := by
    unfold baseCandidates at member
    split at member
    · exact ⟨"refs/heads/", _, by simp, mem_singleton.1 member⟩
    split at member
    · exact ⟨"refs/remotes/origin/", _, by simp, mem_singleton.1 member⟩
    split at member
    · exact ⟨"refs/remotes/origin/", _, by simp, mem_singleton.1 member⟩
    obtain first | second := mem_pair.1 member
    · exact ⟨"refs/heads/", _, by simp, first⟩
    exact ⟨"refs/remotes/origin/", _, by simp, second⟩
  obtain ⟨start, name, nonempty, rfl⟩ := prefixed
  intro empty
  exact nonempty (String.append_eq_empty_iff.1 empty).1

variable {repository : RepositoryInspection}

theorem resolveRequested_valid {base : ResolvedBase}
    (resolved : resolveRequested answers repository requested = .ok base) :
    base.requested = requested ∧ isHexOid base.commitOid = true ∧ base.fullRef ≠ "" := by
  unfold resolveRequested at resolved
  obtain ⟨-, -, resolved⟩ := bind_eq_ok.1 resolved
  by_cases direct : isHexOid requested = true
  · rw [if_pos direct] at resolved
    obtain ⟨isCommit, -, resolved⟩ := bind_eq_ok.1 resolved
    cases isCommit with
    | false => cases resolved
    | true =>
      cases resolved
      exact ⟨rfl, isHexOid_lower direct, ne_empty_of_isHexOid (isHexOid_lower direct)⟩
  rw [if_neg direct] at resolved
  obtain ⟨accepted, -, resolved⟩ := bind_eq_ok.1 resolved
  cases accepted with
  | false => cases resolved
  | true =>
    obtain ⟨⟨fullRef, commitOid⟩, found, resolved⟩ := bind_eq_ok.1 resolved
    cases resolved
    have ⟨member, valid⟩ := firstCommit_valid found
    exact ⟨rfl, valid, ne_empty_of_mem_baseCandidates member⟩

/-- A base is a commit, that of the default branch if the request names none. -/
theorem resolveBase_valid {baseRef : Option String} {base : ResolvedBase}
    (resolved : resolveBase answers repository baseRef = .ok base) :
    base.requested = baseRef.getD repository.defaultBranch.name ∧ isHexOid base.commitOid = true ∧
      base.fullRef ≠ "" := by
  cases baseRef with
  | none =>
    cases resolved
    exact ⟨rfl, repository.defaultBranch.valid.2, repository.defaultBranch.valid.1⟩
  | some requested => exact resolveRequested_valid resolved

/-- A worktree as it is planned for a request. -/
structure Planned (answers : GitAnswers) (root : PathBuf) (branchName : String)
    (request : RepositoryRequest) (planned : PlannedWorktree) : Prop where
  inspected : answers.inspectRepository request.trustedPath = .ok planned.repository
  target : planned.targetPath = root.join planned.repository.worktreeLeaf
  branch : planned.branchName = branchName
  requested : planned.base.requested =
    request.baseRef.getD planned.repository.defaultBranch.name
  commit : isHexOid planned.base.commitOid = true
  resolved : planned.base.fullRef ≠ ""

theorem planWorktree_planned {request : RepositoryRequest} {planned : PlannedWorktree}
    (inspected : answers.inspectRepository request.trustedPath = .ok repository)
    (plan : planWorktree answers root branchName repository request.baseRef = .ok planned) :
    Planned answers root branchName request planned ∧ planned.repository = repository := by
  unfold planWorktree at plan
  split at plan
  · cases plan
  obtain ⟨-, -, plan⟩ := bind_eq_ok.1 plan
  obtain ⟨conflict, -, plan⟩ := bind_eq_ok.1 plan
  cases conflict with
  | true => cases plan
  | false =>
    obtain ⟨base, resolved, plan⟩ := bind_eq_ok.1 plan
    obtain ⟨-, -, plan⟩ := bind_eq_ok.1 plan
    cases plan
    have ⟨requested, commit, named⟩ := resolveBase_valid resolved
    exact ⟨⟨inspected, rfl, rfl, requested, commit, named⟩, rfl⟩

theorem planWorktrees_planned {repositoryIds : List String} {requests : List RepositoryRequest}
    {planned : List PlannedWorktree}
    (plan : planWorktrees answers root branchName repositoryIds requests = .ok planned) :
    List.Forall₂ (Planned answers root branchName) requests planned ∧
      (planned.map fun entry => entry.repository.id).Nodup ∧
        ∀ entry ∈ planned, entry.repository.id ∉ repositoryIds := by
  induction requests generalizing repositoryIds planned with
  | nil =>
    cases plan
    exact ⟨.nil, nodup_nil, fun _ member => by cases member⟩
  | cons request rest ih =>
    unfold planWorktrees at plan
    obtain ⟨repository, inspected, plan⟩ := bind_eq_ok.1 plan
    split at plan
    · cases plan
    rename_i fresh
    obtain ⟨entry, first, plan⟩ := bind_eq_ok.1 plan
    obtain ⟨others, after, plan⟩ := bind_eq_ok.1 plan
    cases plan
    have ⟨entryPlanned, same⟩ := planWorktree_planned inspected first
    have ⟨restPlanned, distinct, unused⟩ := ih after
    refine ⟨.cons entryPlanned restPlanned, ?_, ?_⟩
    · rw [map_cons, nodup_cons]
      refine ⟨?_, distinct⟩
      intro again
      obtain ⟨other, member, sameId⟩ := mem_map.1 again
      exact unused other member (by simp [sameId, same])
    intro other member
    obtain here | later := mem_cons.1 member
    · rw [here, same]
      exact fresh
    exact fun used => unused other later (mem_cons_of_mem _ used)

end Plans

/-! ### Preflight -/

section Setup

variable {env : SetupEnv} {disk : Disk} {view : WorkspaceView} {catalog : RepositoryCatalog}

/-- The request of a saved repository that matches one repository of the catalog. -/
def Requested (env : SetupEnv) (catalog : RepositoryCatalog) (repository : WorkspaceRepositoryPlan)
    (request : RepositoryRequest) : Prop :=
  ∃ found, catalogMatches env catalog repository = [found] ∧
    request = { trustedPath := .ofText found.displayPath, baseRef := some repository.baseRef }

variable {repository : WorkspaceRepositoryPlan}

theorem repositoryRequest_requested
    {request : RepositoryRequest} (made : repositoryRequest env catalog repository = .ok request) :
    Requested env catalog repository request := by
  unfold repositoryRequest at made
  split at made
  · cases made
  · rename_i found only
    split at made
    · cases made
      exact ⟨found, only, rfl⟩
    cases made
  cases made

variable {requests : List RepositoryRequest}

theorem repositoryRequests_requested {repositories : List WorkspaceRepositoryPlan}
    (made : repositoryRequests env catalog repositories = ([], requests)) :
    List.Forall₂ (Requested env catalog) repositories requests := by
  induction repositories generalizing requests with
  | nil =>
    cases made
    exact .nil
  | cons repository rest ih =>
    cases others : repositoryRequests env catalog rest with
    | mk blockers later =>
      rw [repositoryRequests, others] at made
      cases here : repositoryRequest env catalog repository with
      | error found =>
        rw [here] at made
        cases made
      | ok request =>
        rw [here] at made
        cases made
        exact .cons (repositoryRequest_requested here) (ih others)

/-- A saved repository with the worktree that is planned for it. -/
def Selected (env : SetupEnv) (catalog : RepositoryCatalog) (root : PathBuf) (branchName : String)
    (repository : WorkspaceRepositoryPlan) (planned : PlannedWorktree) : Prop :=
  ∃ request, Requested env catalog repository request ∧
    Planned env.git root branchName request planned

theorem canonicalRoot_of_resolve {path root : PathBuf} {created : Bool}
    (resolved : resolveWorkspaceRoot disk path = .ok (root, created)) :
    disk.canonicalRoot = some root := by
  unfold resolveWorkspaceRoot at resolved
  split at resolved
  · cases resolved
  split at resolved
  · cases resolved
  · rename_i canonical
    cases resolved
    exact canonical
  · rename_i canonical
    cases resolved
    exact canonical
  cases resolved

theorem startsWith_append (start rest : String) : startsWith start (start ++ rest) = true := by
  simp [startsWith]

/-- What a preflight with a plan has found. -/
structure Ready (env : SetupEnv) (disk : Disk) (view : WorkspaceView) (preflight : WorkspacePreflight)
    (plan : WorktreePlan) : Prop where
  root : disk.canonicalRoot = some plan.workspaceRoot
  branch : plan.branchName = workspaceBranchName view
  selected : ∃ catalog, env.catalog = .ok catalog ∧
    List.Forall₂ (Selected env catalog plan.workspaceRoot plan.branchName) view.repositories
      plan.repositories
  distinct : (plan.repositories.map fun planned => planned.repository.id).Nodup
  repositories : preflight.repositories = plan.repositories.map preflightRepository
  digest : startsWith "sha256:" preflight.effectDigest = true

theorem preflight_selected {blockers : List PreflightBlocker}
    {plan : WorktreePlan} {found : List PreflightBlocker}
    (made : List.Forall₂ (Requested env catalog) view.repositories requests)
    (planned : planWorkspace env disk view blockers requests = (some plan, found)) :
    disk.canonicalRoot = some plan.workspaceRoot ∧ plan.branchName = workspaceBranchName view ∧
      List.Forall₂ (Selected env catalog plan.workspaceRoot plan.branchName) view.repositories
        plan.repositories ∧ (plan.repositories.map fun planned => planned.repository.id).Nodup := by
  unfold planWorkspace at planned
  split at planned
  · split at planned
    · rename_i accepted
      cases planned
      unfold preflight at accepted
      split at accepted
      · cases accepted
      obtain ⟨⟨root, created⟩, resolved, accepted⟩ := bind_eq_ok.1 accepted
      obtain ⟨worktrees, listed, accepted⟩ := bind_eq_ok.1 accepted
      cases accepted
      have ⟨each, distinct, _⟩ := planWorktrees_planned listed
      refine ⟨canonicalRoot_of_resolve resolved, rfl, ?_, distinct⟩
      exact forall₂_comp made each
    · cases planned
  cases planned

variable {prepared : PreparedPreflight}

theorem preparePreflight_ready {plan : WorktreePlan}
    (made : preparePreflight env disk view = .ok prepared) (planned : prepared.plan = some plan) :
    Ready env disk view prepared.preflight plan := by
  unfold preparePreflight at made
  obtain ⟨catalog, known, made⟩ := bind_eq_ok.1 made
  cases split : repositoryRequests env catalog view.repositories with
  | mk missing requests =>
  cases asked : planWorkspace env disk view missing requests with
  | mk answer found =>
  rw [split] at made
  simp only [asked] at made
  cases made
  simp only at planned
  subst planned
  have none_missing : missing = [] := by
    by_contra blocked
    rw [planWorkspace, if_neg blocked] at asked
    cases asked
  subst none_missing
  have ⟨root, branch, selected, distinct⟩ :=
    preflight_selected (repositoryRequests_requested split) asked
  exact ⟨root, branch, ⟨catalog, known, selected⟩, distinct, rfl, startsWith_append _ _⟩

variable {after : Disk} {fates : List Fate}

/-- The entries of a disk are kept. -/
structure Grows (disk after : Disk) : Prop where
  root : after.canonicalRoot = disk.canonicalRoot
  entries : ∀ path entry, disk.entries path = some entry → after.entries path = some entry

theorem Grows.refl (disk : Disk) : Grows disk disk :=
  ⟨rfl, fun _ _ there => there⟩

theorem Grows.trans {middle : Disk} (first : Grows disk middle) (second : Grows middle after) :
    Grows disk after :=
  ⟨second.root.trans first.root, fun path entry there =>
    second.entries path entry (first.entries path entry there)⟩

variable {path : List String}

theorem Grows.put (absent : disk.entries path = none) (entry : Entry) :
    Grows disk (disk.put path entry) := by
  refine ⟨rfl, fun other found there => ?_⟩
  have different : other ≠ path := by
    intro same
    rw [same, absent] at there
    cases there
  exact (Function.update_of_ne different _ _).trans there

/-- What a step leaves on the disk. -/
def SetupStep.Done (env : SetupEnv) (disk : Disk) : SetupStep → Prop
  | .directory path => disk.entries path = some .directory
  | .file path limit document => ∃ value, document = .ok value ∧ env.size value ≤ limit ∧
      disk.entries path = some (.file value)

theorem SetupStep.Done.mono {step : SetupStep} (done : step.Done env disk)
    (grows : Grows disk after) : step.Done env after := by
  cases step with
  | directory path => exact grows.entries _ _ done
  | file path limit document =>
    obtain ⟨value, written, fits, there⟩ := done
    exact ⟨value, written, fits, grows.entries _ _ there⟩

theorem put_entries (disk : Disk) (path : List String) (entry : Entry) :
    (disk.put path entry).entries path = some entry :=
  Function.update_self ..

theorem createDirectory_ends (path : List String) : Ends (createDirectory path) fates disk
      (fun _ _ after => Grows disk after ∧ after.entries path = some .directory)
      fun _ _ => True := by
  apply Ends.bind_read
  split
  · rename_i absent
    apply Ends.change
    · exact fun _ => ⟨Grows.put absent _, put_entries disk path _⟩
    · exact fun _ => trivial
    exact fun _ => trivial
  · rename_i there
    exact .pure ⟨Grows.refl disk, there⟩
  exact .fail trivial

theorem writeFile_ends (path : List String) (document : Document) :
    Ends (writeFile path document) fates disk
      (fun _ _ after => Grows disk after ∧ after.entries path = some (.file document))
      fun _ _ => True := by
  apply Ends.bind_read
  split
  · rename_i absent
    apply Ends.change
    · exact fun _ => ⟨Grows.put absent _, put_entries disk path _⟩
    · exact fun _ => trivial
    exact fun _ => trivial
  exact .fail trivial

theorem runStep_ends (step : SetupStep) :
    Ends (runStep env step) fates disk (fun _ _ after => Grows disk after ∧ step.Done env after)
      fun _ _ => True := by
  cases step with
  | directory path => exact createDirectory_ends path
  | file path limit document =>
    apply Ends.bind_ofExcept
    · exact fun _ _ => trivial
    intro value written
    apply Ends.ite
    · intro fits
      apply Ends.mono (writeFile_ends path value)
      · exact fun _ _ _ ⟨grows, there⟩ => ⟨grows, value, written, fits, there⟩
      exact fun _ _ stopped => stopped
    exact fun _ => Ends.fail trivial

theorem runSteps_ends (steps : List SetupStep) : Ends (runSteps env steps) fates disk
      (fun _ _ after => Grows disk after ∧ ∀ step ∈ steps, step.Done env after)
      fun _ _ => True := by
  induction steps generalizing fates disk with
  | nil => exact .pure ⟨Grows.refl disk, fun _ member => by cases member⟩
  | cons step rest ih =>
    apply Ends.bind_mono (runStep_ends step)
    · exact fun _ _ stopped => stopped
    intro _ left middle ⟨grows, done⟩
    apply Ends.mono (@ih middle left)
    · intro _ _ after ⟨later, others⟩
      refine ⟨grows.trans later, fun other member => ?_⟩
      obtain here | there := mem_cons.1 member
      · exact here ▸ done.mono later
      exact others other there
    exact fun _ _ stopped => stopped

/-- A planned worktree and the entry of the manifest that records it. -/
structure Recorded (planned : PlannedWorktree) (worktree : MaterializedWorktree) : Prop where
  id : worktree.repositoryId = planned.repository.id
  label : worktree.label = planned.repository.label
  target : worktree.targetDisplayPath = planned.targetPath
  base : worktree.baseCommitOid = planned.base.commitOid
  state : isHexOid planned.base.commitOid = true → worktree.gitState.all validGitState = true

variable {worktree : MaterializedWorktree}

theorem materializedWorktree_recorded {planned : PlannedWorktree}
    (made : materializedWorktree env view (createdWorktree planned) = .ok worktree) :
    Recorded planned worktree := by
  unfold materializedWorktree at made
  split at made
  · cases made
  rename_i inspection _
  cases made
  refine ⟨rfl, rfl, rfl, rfl, fun valid => ?_⟩
  have head : validCommitOid planned.base.commitOid = true := valid
  have upstream : inspection.upstreamFullRef.all (startsWith "refs/") = true := by
    cases named : inspection.upstreamFullRef with
    | none => rfl
    | some reference => exact inspection.validUpstream reference named
  simp [validGitState, createdWorktree, head, upstream]

/-- The setup of a workspace has published the manifest on the disk. -/
structure Published (env : SetupEnv) (disk : Disk) (view : WorkspaceView)
    (preflight : WorkspacePreflight) (plan : WorktreePlan) (materialization : WorkspaceMaterialization)
    (after : Disk) : Prop where
  ready : Ready env disk view preflight plan
  root : after.canonicalRoot = disk.canonicalRoot
  worktrees : List.Forall₂ Recorded plan.repositories materialization.worktrees
  manifest : ∃ created, materialization =
    newMaterialization view preflight (plan.receipt created) materialization.worktrees
  written : ∃ context, evidenceContext view preflight materialization = .ok context ∧
    ∀ step ∈ setupSteps env view materialization context, step.Done env after

theorem writeWorkspace_ends {preflight : WorkspacePreflight} {plan : WorktreePlan} {start : Disk}
    (ready : Ready env start view preflight plan) (kept : disk.canonicalRoot = start.canonicalRoot) :
    Ends (writeWorkspace env view preflight (plan.receipt plan.workspaceRootWillBeCreated)) fates disk
      (fun materialization _ after =>
        Published env start view preflight plan materialization after) fun _ _ => True := by
  apply Ends.bind_ofExcept
  · exact fun _ _ => trivial
  intro worktrees listed
  apply Ends.bind_ofExcept
  · exact fun _ _ => trivial
  intro context known
  apply Ends.bind_mono (runSteps_ends _)
  · exact fun _ _ stopped => stopped
  intro _ _ after ⟨grows, done⟩
  have recorded := mapM_eq_ok_iff.1 listed
  rw [WorktreePlan.receipt, forall₂_map_left_iff] at recorded
  exact .pure
    { ready := ready
      root := grows.root.trans kept
      worktrees := recorded.imp fun _ _ made => materializedWorktree_recorded made
      manifest := ⟨_, rfl⟩
      written := ⟨context, known, done⟩ }

theorem withWorktrees_root (disk : Disk) (plan : WorktreePlan) :
    (disk.withWorktrees plan).canonicalRoot = disk.canonicalRoot := by
  have kept : ∀ (worktrees : List PlannedWorktree) (start : Disk),
      (worktrees.foldl (fun disk planned => disk.put [planned.repository.worktreeLeaf] .directory)
        start).canonicalRoot = start.canonicalRoot := by
    intro worktrees
    induction worktrees with
    | nil => exact fun _ => rfl
    | cons planned rest ih => exact fun start => ih (start.put _ _)
  exact kept plan.repositories (disk.put [] .directory)

theorem runSetup_published (made : preparePreflight env disk view = .ok prepared) :
    Ends (runSetup env view prepared) fates disk (fun result _ after =>
        ∃ preflight plan, Published env disk view preflight plan result.materialization after)
      fun _ _ => True := by
  apply Ends.bind
  apply Ends.tryChange
  · intro left
    cases planned : prepared.plan with
    | none => exact .fail trivial
    | some plan =>
      apply Ends.bind_change
      · exact fun _ => trivial
      · exact fun _ => trivial
      intro left
      apply Ends.bind
      apply Ends.attempt
      apply Ends.mono (writeWorkspace_ends (preparePreflight_ready made planned)
        (withWorktrees_root disk plan))
      · exact fun materialization _ after published =>
          Ends.pure ⟨prepared.preflight, plan, published⟩
      intro stopped after _
      cases stopped with
      | none => trivial
      | some error => exact fun _ => Ends.fail trivial
  · exact fun _ => Ends.fail trivial
  · exact fun _ => Ends.fail trivial
  · trivial
  trivial

theorem materializeWorkspace_published {expectedEffectDigest : String} :
    Ends (materializeWorkspace env view expectedEffectDigest) fates disk
      (fun result _ after => result.replayed = false →
        ∃ preflight plan, Published env disk view preflight plan result.materialization after)
      fun _ _ => True := by
  apply Ends.bind_read
  split
  · apply Ends.ite
    · exact fun _ => Ends.fail trivial
    · exact fun _ => Ends.pure fun replayed => by cases replayed
  apply Ends.bind_ofExcept
  · exact fun _ _ => trivial
  intro prepared made
  refine Ends.guard trivial fun _ => ?_
  refine Ends.guard trivial fun _ => ?_
  apply Ends.mono (runSetup_published made)
  · exact fun _ _ _ published _ => published
  exact fun _ _ stopped => stopped

/-! ### Reading the manifest back -/

variable {preflight : WorkspacePreflight} {plan : WorktreePlan} {catalog : RepositoryCatalog}
  {materialization : WorkspaceMaterialization}

/-- ASCII letters of either case have one lower case. -/
def RespectsAsciiCase (toLowercase : String → String) : Prop :=
  ∀ first second, eqIgnoreAsciiCase first second = true → toLowercase first = toLowercase second

/-- The catalog says of every repository what an inspection says now. -/
def CurrentCatalog (env : SetupEnv) : Prop :=
  ∀ catalog, env.catalog = .ok catalog → ∀ found ∈ catalog.repositories, ∀ inspection,
    env.git.inspectRepository (.ofText found.displayPath) = .ok inspection →
      inspection.id = found.id ∧ inspection.label = found.label

/-- A repository that is saved without an identifier has the label of every local repository that it
can match, up to the case of ASCII letters. -/
def LabelsAgree (env : SetupEnv) (view : WorkspaceView) : Prop :=
  ∀ catalog, env.catalog = .ok catalog → ∀ repository ∈ view.repositories,
    repository.repositoryId = none → ∀ found ∈ catalog.repositories,
      env.toLowercase found.label = env.toLowercase repository.label →
        eqIgnoreAsciiCase found.label repository.label = true

/-- A saved repository and the worktree of the only local repository that it matches. -/
def Chosen (env : SetupEnv) (catalog : RepositoryCatalog) (repository : WorkspaceRepositoryPlan)
    (worktree : MaterializedWorktree) : Prop :=
  ∃ found, catalogMatches env catalog repository = [found] ∧ worktree.repositoryId = found.id ∧
    worktree.label = found.label

variable {found : RepositorySummary}

theorem mem_catalog_of_catalogMatches (member : found ∈ catalogMatches env catalog repository) :
    found ∈ catalog.repositories := by
  unfold catalogMatches at member
  split at member
  · exact (mem_filter.1 member).1
  exact (mem_filter.1 member).1

theorem mem_catalogMatches_of_selects (lower : RespectsAsciiCase env.toLowercase)
    (known : found ∈ catalog.repositories)
    (id : worktree.repositoryId = found.id) (label : worktree.label = found.label)
    (selected : selects repository worktree = true) :
    found ∈ catalogMatches env catalog repository := by
  unfold selects at selected
  unfold catalogMatches
  split at selected
  · rename_i unpinned
    rw [unpinned]
    refine mem_filter.2 ⟨known, ?_⟩
    rw [label] at selected
    simpa using lower _ _ selected
  rename_i repositoryId pinned
  rw [pinned]
  refine mem_filter.2 ⟨known, ?_⟩
  simpa [← id] using selected

theorem Chosen.only (lower : RespectsAsciiCase env.toLowercase)
    {other : WorkspaceRepositoryPlan} {worktree' : MaterializedWorktree}
    (chosen : Chosen env catalog repository worktree) (chosen' : Chosen env catalog other worktree')
    (selected : selects repository worktree' = true) :
    worktree'.repositoryId = worktree.repositoryId := by
  obtain ⟨found, matched, id, _⟩ := chosen
  obtain ⟨found', matched', id', label'⟩ := chosen'
  have known : found' ∈ catalog.repositories :=
    mem_catalog_of_catalogMatches (by rw [matched']; exact mem_singleton_self found')
  have member := mem_catalogMatches_of_selects lower known id' label' selected
  rw [matched, mem_singleton] at member
  rw [id, id', member]

theorem Chosen.selects_iff (chosen : Chosen env catalog repository worktree) :
    selects repository worktree = true ↔
      (repository.repositoryId = none → ∀ found ∈ catalog.repositories,
        env.toLowercase found.label = env.toLowercase repository.label →
          eqIgnoreAsciiCase found.label repository.label = true) := by
  obtain ⟨found, matched, id, label⟩ := chosen
  have own : found ∈ catalogMatches env catalog repository := by
    rw [matched]
    exact mem_singleton_self found
  cases pinned : repository.repositoryId with
  | some repositoryId =>
    have same : found.id = repositoryId := by
      rw [catalogMatches, pinned] at own
      simpa using (mem_filter.1 own).2
    simp [selects, pinned, id, same]
  | none =>
    simp only [selects, pinned, label, true_implies]
    rw [catalogMatches, pinned] at matched own
    constructor
    · intro agrees other known same
      have member : other ∈ [found] := by
        rw [← matched]
        exact mem_filter.2 ⟨known, by simpa using same⟩
      rw [mem_singleton.1 member]
      exact agrees
    intro all
    have ⟨known, same⟩ := mem_filter.1 own
    exact all found known (by simpa using same)

theorem Published.chosen (current : CurrentCatalog env)
    (published : Published env disk view preflight plan materialization after) :
    ∃ catalog, env.catalog = .ok catalog ∧
      List.Forall₂ (Chosen env catalog) view.repositories materialization.worktrees := by
  obtain ⟨catalog, known, selected⟩ := published.ready.selected
  refine ⟨catalog, known, (forall₂_comp selected published.worktrees).imp ?_⟩
  intro repository worktree ⟨planned, ⟨request, ⟨found, matched, made⟩, listed⟩, recorded⟩
  have there : found ∈ catalog.repositories :=
    mem_catalog_of_catalogMatches (by rw [matched]; exact mem_singleton_self found)
  have inspected := listed.inspected
  rw [made] at inspected
  have ⟨id, label⟩ := current catalog known found there planned.repository inspected
  exact ⟨found, matched, recorded.id.trans id, recorded.label.trans label⟩

theorem Published.distinct
    (published : Published env disk view preflight plan materialization after) :
    (materialization.worktrees.map MaterializedWorktree.repositoryId).Nodup := by
  have same : plan.repositories.map (fun planned => planned.repository.id) =
      materialization.worktrees.map MaterializedWorktree.repositoryId := by
    rw [← forall₂_eq_eq_eq, forall₂_map_left_iff, forall₂_map_right_iff]
    exact published.worktrees.imp fun _ _ recorded => recorded.id.symm
  rw [← same]
  exact published.ready.distinct

theorem Published.matches_iff (lower : RespectsAsciiCase env.toLowercase)
    (current : CurrentCatalog env)
    (published : Published env disk view preflight plan materialization after) :
    materializationMatchesRepositoryPlans view.repositories materialization.worktrees = true ↔
      LabelsAgree env view := by
  obtain ⟨catalog, known, chosen⟩ := published.chosen current
  have firsts : (view.repositories.zip materialization.worktrees).map Prod.fst =
      view.repositories := map_fst_zip chosen.length_eq.le
  have seconds : (view.repositories.zip materialization.worktrees).map Prod.snd =
      materialization.worktrees := map_snd_zip chosen.length_eq.ge
  have distinct : ((view.repositories.zip materialization.worktrees).map
      fun pair => pair.2.repositoryId).Nodup := by
    have composed := published.distinct
    rw [← seconds, map_map] at composed
    exact composed
  have paired : ∀ pair ∈ view.repositories.zip materialization.worktrees,
      Chosen env catalog pair.1 pair.2 :=
    fun pair member => forall₂_of_mem_zip chosen member
  have exactly := Materialization.matches_iff distinct fun first one second two selected =>
    (paired first one).only lower (paired second two) selected
  rw [firsts, seconds] at exactly
  rw [exactly]
  constructor
  · intro all other same repository member
    rw [known] at same
    cases same
    obtain ⟨worktree, inside, own⟩ := forall₂_mem_left chosen member
    exact own.selects_iff.1 (all _ inside)
  intro agree pair member
  exact (paired pair member).selects_iff.2 (agree catalog known pair.1 (of_mem_zip member).1)

variable {context : WorkspaceEvidenceContext}

theorem mem_setupSteps_manifest :
    .file [materializationManifestFile] maxGeneratedFileBytes (.ok (.manifest materialization)) ∈
      setupSteps env view materialization context := by
  simp [setupSteps]

theorem mem_setupSteps_codeWorkspace :
    .file [codeWorkspaceFileName view.intent view.title] maxGeneratedFileBytes
      (.ok (.codeWorkspace { folders := codeWorkspaceFolders materialization })) ∈
      setupSteps env view materialization context := by
  simp [setupSteps]

theorem mem_setupSteps_planning
    {planning : WorkspacePlanningSelection} (planned : materialization.planning = some planning) :
    .directory [planningFolderLeaf planning.folder] ∈
      setupSteps env view materialization context := by
  simp [setupSteps, planningSteps, planned]

theorem generatedFile_of_done {document : Document}
    (done : (SetupStep.file path maxGeneratedFileBytes (.ok document)).Done env after) :
    after.generatedFile env.size path = some document := by
  obtain ⟨value, same, fits, there⟩ := done
  cases same
  rw [Disk.generatedFile, there]
  exact if_pos fits

section

variable (published : Published env disk view preflight plan materialization after)
include published

theorem Published.readManifest : readManifest env.size after = .ok (some materialization) := by
  obtain ⟨context, -, done⟩ := published.written
  have written := done _ mem_setupSteps_manifest
  have there := generatedFile_of_done written
  obtain ⟨_, _, _, entry⟩ := written
  rw [Materialization.readManifest, entry, there]

theorem Published.fields : materialization.schemaVersion = manifestSchemaVersion ∧
      materialization.workspaceId = view.workspaceId ∧
      materialization.workspaceRecordVersion = view.recordVersion ∧
      materialization.effectDigest = preflight.effectDigest ∧
      materialization.workspaceDisplayPath = plan.workspaceRoot ∧
      materialization.codeWorkspaceDisplayPath =
        plan.workspaceRoot.join (codeWorkspaceFileName view.intent view.title) ∧
      materialization.branchName = plan.branchName ∧
      materialization.runtime = view.runtime ∧ materialization.planning = view.planning := by
  obtain ⟨created, same⟩ := published.manifest
  rw [same]
  exact ⟨rfl, rfl, rfl, rfl, rfl, rfl, rfl, rfl, rfl⟩

theorem Published.validWorktrees :
    materialization.worktrees.all (validWorktree plan.workspaceRoot) = true := by
  obtain ⟨catalog, -, selected⟩ := published.ready.selected
  have each := forall₂_comp selected published.worktrees
  rw [all_eq_true]
  intro worktree member
  obtain ⟨repository, _, planned, ⟨request, _, listed⟩, recorded⟩ :=
    forall₂_mem_left each.flip member
  have commit : validCommitOid planned.base.commitOid = true := listed.commit
  simp [validWorktree, recorded.target, listed.target, recorded.base, commit,
    recorded.state listed.commit]

end

theorem Published.identifies_iff (lower : RespectsAsciiCase env.toLowercase)
    (current : CurrentCatalog env)
    (published : Published env disk view preflight plan materialization after) :
    identifies view materialization = true ↔
      disk.canonicalRoot = some (workspacePath view) ∧ LabelsAgree env view := by
  obtain ⟨schema, id, version, digest, path, -, branch, -, planning⟩ := published.fields
  obtain ⟨catalog, -, chosen⟩ := published.chosen current
  have signed : startsWith "sha256:" materialization.effectDigest = true := by
    rw [digest]
    exact published.ready.digest
  have counted : materialization.worktrees.length = view.repositories.length :=
    chosen.length_eq.symm
  have matched := published.matches_iff lower current
  have root : disk.canonicalRoot = some (workspacePath view) ↔
      plan.workspaceRoot = workspacePath view := by
    rw [published.ready.root, Option.some_inj]
  rw [root]
  by_cases canonical : plan.workspaceRoot = workspacePath view
  · have valid := published.validWorktrees
    rw [canonical] at valid path
    simp [identifies, schema, id, version, path, counted, planning, branch, published.ready.branch,
      signed, valid, matched, canonical]
  simp [identifies, path, canonical]

section

variable (published : Published env disk view preflight plan materialization after)
include published

theorem Published.validCodeWorkspace (canonical : plan.workspaceRoot = workspacePath view) :
    validCodeWorkspace env.size after view materialization = true := by
  obtain ⟨-, -, -, -, -, file, -⟩ := published.fields
  obtain ⟨context, -, done⟩ := published.written
  have there := generatedFile_of_done (done _ mem_setupSteps_codeWorkspace)
  simp [Materialization.validCodeWorkspace, file, canonical, there]

theorem Published.validPlanningHome (canonical : disk.canonicalRoot = some (workspacePath view)) :
    validPlanningHome after view materialization.planning = true := by
  obtain ⟨context, -, done⟩ := published.written
  unfold Materialization.validPlanningHome
  cases planned : materialization.planning with
  | none => rfl
  | some planning =>
    have made := done _ (mem_setupSteps_planning planned)
    have directory : after.entries [planningFolderLeaf planning.folder] = some .directory := made
    simp [Disk.canonicalDirectory, directory, published.root, canonical]

theorem Published.namesCodeFile (canonical : plan.workspaceRoot = workspacePath view) :
    namesCodeFile view materialization = true := by
  obtain ⟨-, -, -, -, -, file, -⟩ := published.fields
  simp [Materialization.namesCodeFile, isWorkspaceCodeFile, isCodeWorkspaceName, file, canonical]

end

/-- The request that a workspace shows. -/
def viewRequest (view : WorkspaceView) : CreateWorkspaceRequest where
  intent := view.intent
  title := view.title
  preferredProvider := view.preferredProvider
  repositories := view.repositories.map fun repository =>
    { repositoryId := repository.repositoryId, label := repository.label,
      baseRef := repository.baseRef }
  runtime := view.runtime
  planning := view.planning

theorem length_le_of_normalize {toLowercase : String → String} {normalized : CreateWorkspaceRequest}
    (accepted : (viewRequest view).normalize toLowercase = .ok normalized) :
    view.repositories.length ≤ maxRepositoriesPerWorkspace := by
  by_contra many
  have refused : (viewRequest view).repositories.length > maxRepositoriesPerWorkspace := by
    simpa [viewRequest] using many
  unfold CreateWorkspaceRequest.normalize at accepted
  split at accepted
  · cases accepted
  split at accepted
  · cases accepted
  split at accepted
  · cases accepted
  split at accepted
  · cases accepted
  cases accepted

/-- The three readers accept the manifest. -/
def AcceptedBy (size : Document → ℕ) (disk : Disk) (view : WorkspaceView)
    (materialization : WorkspaceMaterialization) : Prop :=
  readMaterializationReceipt size disk view = .ok materialization ∧
    removalMaterialization size disk view = .ok (some materialization) ∧
    legacyLifecycleObservation size disk view =
      (.materialized, materialization.worktrees.length)

section Accepted

variable {normalized : CreateWorkspaceRequest}
  (published : Published env disk view preflight plan materialization after)
  (lower : RespectsAsciiCase env.toLowercase) (current : CurrentCatalog env)

include published lower current

theorem Published.canonical (identified : identifies view materialization = true) :
    disk.canonicalRoot = some (workspacePath view) ∧ plan.workspaceRoot = workspacePath view := by
  have ⟨canonical, _⟩ := (published.identifies_iff lower current).1 identified
  exact ⟨canonical, Option.some.inj (published.ready.root.symm.trans canonical)⟩

theorem Published.receipt_iff :
    readMaterializationReceipt env.size after view = .ok materialization ↔
      identifies view materialization = true := by
  obtain ⟨context, -, done⟩ := published.written
  obtain ⟨_, _, _, entry⟩ := done _ mem_setupSteps_manifest
  obtain ⟨-, -, -, -, -, -, -, runtime, -⟩ := published.fields
  rw [readMaterializationReceipt, entry, published.readManifest]
  by_cases identified : identifies view materialization = true
  · have ⟨canonical, root⟩ := published.canonical lower current identified
    simp [validReceipt, identified, runtime, published.validCodeWorkspace root,
      published.validPlanningHome canonical]
  simp [validReceipt, identified]

theorem Published.removal_iff :
    removalMaterialization env.size after view = .ok (some materialization) ↔
      identifies view materialization = true := by
  rw [removalMaterialization, published.readManifest]
  by_cases identified : identifies view materialization = true
  · have ⟨_, root⟩ := published.canonical lower current identified
    simp [identified, published.namesCodeFile root]
  simp [identified]

theorem Published.lifecycle_iff
    (saved : (viewRequest view).normalize env.toLowercase = .ok normalized) :
    legacyLifecycleObservation env.size after view =
        (.materialized, materialization.worktrees.length) ↔
      identifies view materialization = true := by
  obtain ⟨-, -, -, -, -, -, -, runtime, -⟩ := published.fields
  obtain ⟨_, _, chosen⟩ := published.chosen current
  have few : materialization.worktrees.length < 2 ^ 32 := by
    have bounded := length_le_of_normalize saved
    rw [chosen.length_eq] at bounded
    exact lt_of_le_of_lt bounded (by decide)
  rw [legacyLifecycleObservation, published.readManifest]
  by_cases identified : identifies view materialization = true
  · have ⟨_, root⟩ := published.canonical lower current identified
    simp only [identified, published.namesCodeFile root, runtime, few, decide_true, Bool.and_self,
      if_true]
  simp [identified]

theorem Published.accepted_iff
    (saved : (viewRequest view).normalize env.toLowercase = .ok normalized) :
    AcceptedBy env.size after view materialization ↔
      disk.canonicalRoot = some (workspacePath view) ∧ LabelsAgree env view := by
  rw [AcceptedBy, published.receipt_iff lower current, published.removal_iff lower current,
    published.lifecycle_iff lower current saved, and_self, and_self,
    published.identifies_iff lower current]

end Accepted

/-- The manifest of a setup that has just run is accepted exactly if the workspace path is canonical
and the labels agree. -/
theorem published_manifest_accepted_iff {expectedEffectDigest : String} {left : List Fate}
    {result : MaterializeWorkspaceResult} {normalized : CreateWorkspaceRequest}
    (lower : RespectsAsciiCase env.toLowercase) (current : CurrentCatalog env)
    (saved : (viewRequest view).normalize env.toLowercase = .ok normalized)
    (ended : materializeWorkspace env view expectedEffectDigest fates disk =
      { outcome := .value result, fates := left, store := after })
    (fresh : result.replayed = false) :
    AcceptedBy env.size after view result.materialization ↔
      disk.canonicalRoot = some (workspacePath view) ∧ LabelsAgree env view := by
  have ⟨value, _, _⟩ := ends_iff.1
    (@materializeWorkspace_published env disk view fates expectedEffectDigest)
  obtain ⟨preflight, plan, published⟩ := value result left after ended fresh
  exact published.accepted_iff lower current saved

end Setup

/-! ### Two setups -/

def sampleLowercase (text : String) : String :=
  String.ofList (text.toList.map fun c => if c.toLower = 'É' then 'é' else c.toLower)

def sampleRoot : PathBuf where
  absolute := true
  components := ["work", "plan"]

def sampleInspection (label : String) : RepositoryInspection where
  id := "repo_0123456789"
  label := label
  worktreeRoot := { absolute := true, components := ["src", "app"] }
  gitCommonDir := { absolute := true, components := ["src", "app", ".git"] }
  currentBranchFullRef := none
  upstreamFullRef := none
  originUrl := none
  defaultBranch :=
    { name := "main"
      fullRef := "refs/heads/main"
      commitOid := "0000000000000000000000000000000000000000"
      valid := by decide }
  validUpstream := fun _ none => by cases none

def sampleAnswers (label : String) : GitAnswers where
  inspectRepository := fun _ => .ok (sampleInspection label)
  checkRefFormat := fun _ _ => .ok true
  localBranchExists := fun _ _ => .ok false
  objectIsCommit := fun _ _ => .ok true
  revParse := fun _ _ => .ok (some "0000000000000000000000000000000000000000")
  targetPresent := fun _ => some false

def sampleCatalog (label : String) : RepositoryCatalog where
  repositoryRootDisplayPath := "/src"
  repositories :=
    [{ id := "repo_0123456789", label := label, checkoutLeaf := "app", displayPath := "/src/app",
       checkoutAliases := [], defaultBranch := "main" }]
  skippedEntries := 0

def sampleEnv (label : String) : SetupEnv where
  catalog := .ok (sampleCatalog label)
  git := sampleAnswers label
  toLowercase := sampleLowercase
  size := fun _ => 0
  runtimeIsStale := fun _ _ => false
  setupRecovery := none
  effectJson := fun _ => []
  inspectCreated := fun _ => .ok (sampleInspection label)
  trackingRemoteUrl := fun _ _ => none
  checkWorktrees := .ok
  verificationChecks := fun _ => []
  nowUnixMs := 0
  guide := fun _ _ => ""
  planningFiles := fun _ => []
  reviewInbox := .ok ""
  emptyAgentReport := ""
  rollbackComplete := true

def sampleView (label : String) : WorkspaceView where
  schemaVersion := 1
  workspaceId := 1
  recordVersion := 1
  intent := .jira "APP-1"
  title := "Plan"
  displayName := none
  preferredProvider := .codex
  phase := .draft
  repositories :=
    [{ requestId := 2, repositoryId := none, label := label, baseRef := "main",
       worktreeLeaf := "app" }]
  runtime := none
  planning := none
  observedWorkItems := []
  workspaceRootId := "main"
  workspaceLeaf := "plan"
  workspaceDisplayPath := "/work/plan"
  lifecycle := .unknown
  workflow :=
    { state := .ready, revision := 0, updatedAtUnixMs := 0,
      placement := { mode := .automatic, rank := 0 } }
  createdAtUnixMs := 0
  updatedAtUnixMs := 0

def sampleDisk : Disk where
  canonicalRoot := some sampleRoot
  entries := fun _ => none

theorem sampleLowercase_respects : RespectsAsciiCase sampleLowercase := by
  intro first second same
  have lower : first.toList.map Char.toLower = second.toList.map Char.toLower := by
    simpa [eqIgnoreAsciiCase, Wts.CodeWorkspace.toAsciiLowercase, String.ofList_inj] using same
  have composed : ∀ text : String, sampleLowercase text =
      String.ofList ((text.toList.map Char.toLower).map fun c => if c = 'É' then 'é' else c) := by
    intro text
    simp [sampleLowercase, Function.comp_def]
  rw [composed, composed, lower]

theorem sampleEnv_current (label : String) : CurrentCatalog (sampleEnv label) := by
  intro catalog known found member inspection inspected
  cases known
  cases inspected
  rw [mem_singleton.1 member]
  exact ⟨rfl, rfl⟩

theorem sampleView_normal : (viewRequest (sampleView "App")).normalize sampleLowercase =
        .ok (viewRequest (sampleView "App")) ∧
      (viewRequest (sampleView "ÉTUDE")).normalize sampleLowercase =
        .ok (viewRequest (sampleView "ÉTUDE")) := by
  decide +kernel

theorem sample_labels : sampleLowercase "étude" = sampleLowercase "ÉTUDE" ∧
      eqIgnoreAsciiCase "étude" "ÉTUDE" = false ∧ eqIgnoreAsciiCase "app" "App" = true := by
  decide +kernel

theorem not_labelsAgree_sample : ¬ LabelsAgree (sampleEnv "étude") (sampleView "ÉTUDE") := by
  intro agree
  have ⟨lower, distinct, _⟩ := sample_labels
  have folded := agree (sampleCatalog "étude") rfl _ (mem_singleton_self _) rfl _
    (mem_singleton_self _) lower
  change eqIgnoreAsciiCase "étude" "ÉTUDE" = true at folded
  rw [distinct] at folded
  cases folded

theorem labelsAgree_sample : LabelsAgree (sampleEnv "app") (sampleView "App") := by
  intro catalog known repository saved _ found member _
  cases known
  rw [mem_singleton.1 saved, mem_singleton.1 member]
  exact sample_labels.2.2

theorem sampleDisk_root (label : String) :
    sampleDisk.canonicalRoot = some (workspacePath (sampleView label)) := by
  change some sampleRoot = some (PathBuf.ofText "/work/plan")
  decide +kernel

variable {disk : Disk} {env : SetupEnv} {view : WorkspaceView}

theorem materializeWorkspace_of_ready {fates : List Fate} {prepared : PreparedPreflight}
    (new : disk.entries [materializationManifestFile] = none)
    (made : preparePreflight env disk view = .ok prepared)
    (ready : prepared.preflight.ready = true) :
    materializeWorkspace env view prepared.preflight.effectDigest fates disk =
      runSetup env view prepared fates disk := by
  have unread : validateMaterialization env disk view = .error .notMaterialized := by
    rw [validateMaterialization, readMaterializationReceipt, new]
    rfl
  unfold materializeWorkspace
  simp only [bind, Proc.bind, Proc.read, unread, made, Proc.ofExcept, Proc.pure, ready,
    Bool.not_true, Bool.false_eq_true, if_false, ne_eq, not_true_eq_false]

def publishes (env : SetupEnv) (view : WorkspaceView) (disk : Disk) : Bool :=
  match preparePreflight env disk view with
  | .ok prepared =>
    prepared.preflight.ready &&
      (runSetup env view prepared [] disk).outcome.result?.any fun result => !result.replayed
  | .error _ => false

theorem publishes_run (new : disk.entries [materializationManifestFile] = none)
    (run : publishes env view disk = true) : ∃ digest result left after, result.replayed = false ∧
      materializeWorkspace env view digest [] disk =
        { outcome := .value result, fates := left, store := after } := by
  unfold publishes at run
  split at run
  · rename_i prepared made
    rw [Bool.and_eq_true] at run
    refine ⟨prepared.preflight.effectDigest, ?_⟩
    rw [materializeWorkspace_of_ready new made run.1]
    cases ended : runSetup env view prepared [] disk with
    | mk outcome left after =>
      rw [ended] at run
      cases outcome with
      | value result => exact ⟨result, left, after, by simpa [Outcome.result?] using run.2, rfl⟩
      | failed error => simp [Outcome.result?] at run
      | cut => simp [Outcome.result?] at run
  cases run

/-- The labels differ in the case of a letter that is not ASCII: all readers reject the manifest that
was just published. -/
theorem accented_label_counterexample :
    ∃ env view disk digest result after, ∃ left : List Fate, RespectsAsciiCase env.toLowercase ∧
      CurrentCatalog env ∧ (viewRequest view).normalize env.toLowercase = .ok (viewRequest view) ∧
      disk.canonicalRoot = some (workspacePath view) ∧ result.replayed = false ∧
      materializeWorkspace env view digest [] disk =
        { outcome := .value result, fates := left, store := after } ∧
      ¬ AcceptedBy env.size after view result.materialization := by
  have published : publishes (sampleEnv "étude") (sampleView "ÉTUDE") sampleDisk = true := by
    decide +kernel
  have normal := sampleView_normal.2
  obtain ⟨digest, result, left, after, fresh, run⟩ := publishes_run rfl published
  have rejected : ¬ AcceptedBy (sampleEnv "étude").size after (sampleView "ÉTUDE")
      result.materialization := by
    intro accepted
    have ⟨preflight, plan, publication⟩ := (ends_iff.1 (@materializeWorkspace_published
      (sampleEnv "étude") sampleDisk (sampleView "ÉTUDE") [] digest)).1 result left after run fresh
    have ⟨_, agree⟩ := (publication.accepted_iff sampleLowercase_respects (sampleEnv_current _)
      normal).1 accepted
    exact not_labelsAgree_sample agree
  exact ⟨sampleEnv "étude", sampleView "ÉTUDE", sampleDisk, digest, result, after, left,
    sampleLowercase_respects, sampleEnv_current _, normal, sampleDisk_root _, fresh, run, rejected⟩

/-- The labels differ in the case of an ASCII letter. -/
theorem published_manifest_accepted_sample :
    ∃ digest result after, ∃ left : List Fate, result.replayed = false ∧
      materializeWorkspace (sampleEnv "app") (sampleView "App") digest [] sampleDisk =
        { outcome := .value result, fates := left, store := after } ∧
      AcceptedBy (sampleEnv "app").size after (sampleView "App") result.materialization := by
  have published : publishes (sampleEnv "app") (sampleView "App") sampleDisk = true := by
    decide +kernel
  have normal := sampleView_normal.1
  obtain ⟨digest, result, left, after, fresh, run⟩ := publishes_run rfl published
  have accepted := (published_manifest_accepted_iff sampleLowercase_respects (sampleEnv_current _)
    normal run fresh).2 ⟨sampleDisk_root _, labelsAgree_sample⟩
  exact ⟨digest, result, after, left, fresh, run, accepted⟩

end Wts.Materialization
