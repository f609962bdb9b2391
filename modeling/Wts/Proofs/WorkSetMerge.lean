/-
Module: Wts.Proofs.WorkSetMerge
Purpose: The input of a task is a three-way merge of the results of its maximal prerequisites
  against the original capture.
Trusted boundary: none
Main exports: desiredInput_keeps_edits_iff
-/
import Wts.Library.ThreeWay
import Wts.Proofs.WorkSetPlan

namespace Wts.WorkSets

open Checkpoint List Relation ThreeWay
open Interrupt (bind_eq_ok)
open Std (ExtTreeMap ExtTreeSet)

section Candidate

variable {original : WorktreeCheckpointCapture} {candidate : Candidate} {state : MergeState}
  {path : String}

/-- Whether a path of the candidate can be merged. -/
def FitsAt (original : WorktreeCheckpointCapture) (candidate : Candidate) (state : MergeState)
    (path : String) : Prop :=
  candidate.result.stateAt path = original.stateAt path ∨
    state.1.stateAt path = original.stateAt path ∨
      state.1.stateAt path = candidate.result.stateAt path

theorem sameFile_iff {left right : WorktreeCheckpointCapture} :
    sameFile left.files[path]? right.files[path]? = true ↔ left.stateAt path = right.stateAt path :=
  decide_eq_true_iff

theorem mergePath_of_fits (fits : FitsAt original candidate state path) :
    ∃ after, mergePath original candidate state path = .ok after ∧ ∀ other,
      after.1.stateAt other = if path = other then
        overlay original.stateAt state.1.stateAt candidate.result.stateAt other
      else state.1.stateAt other := by
  unfold mergePath
  by_cases unchanged : candidate.result.stateAt path = original.stateAt path
  · refine ⟨state, ?_, ?_⟩
    · rw [if_pos (sameFile_iff.2 unchanged.symm)]
    · intro other
      split
      · rename_i here
        subst here
        rw [overlay_of_unchanged unchanged]
      rfl
  have differs : ¬sameFile original.files[path]? candidate.result.files[path]? = true :=
    fun same => unchanged (sameFile_iff.1 same).symm
  have allowed : ¬(¬sameFile state.1.files[path]? original.files[path]? = true ∧
      ¬sameFile state.1.files[path]? candidate.result.files[path]? = true) := by
    intro ⟨touched, other⟩
    rcases fits with back | untouched | made
    · exact unchanged back
    · exact touched (sameFile_iff.2 untouched)
    exact other (sameFile_iff.2 made)
  refine ⟨_, by rw [if_neg differs, if_neg allowed], ?_⟩
  intro other
  rw [stateAt_override]
  split
  · rename_i here
    subst here
    rw [overlay_of_changed unchanged]
    rfl
  rfl

variable {after : MergeState}

theorem fitsAt_of_mergePath (merged : mergePath original candidate state path = .ok after) :
    FitsAt original candidate state path := by
  by_contra misfit
  unfold FitsAt at misfit
  push Not at misfit
  obtain ⟨changed, touched, other⟩ := misfit
  unfold mergePath at merged
  rw [if_neg fun same => changed (sameFile_iff.1 same).symm,
    if_pos ⟨fun same => touched (sameFile_iff.1 same), fun same => other (sameFile_iff.1 same)⟩]
    at merged
  cases merged

theorem fitsAt_congr (fits : FitsAt original candidate state path)
    (states : ∀ other, after.1.stateAt other = if path = other then
        overlay original.stateAt state.1.stateAt candidate.result.stateAt other
      else state.1.stateAt other) (other : String) :
    (FitsAt original candidate after other ↔ FitsAt original candidate state other) ∧
      overlay original.stateAt after.1.stateAt candidate.result.stateAt other =
        overlay original.stateAt state.1.stateAt candidate.result.stateAt other := by
  have here := states other
  by_cases equal : path = other
  · subst equal
    rw [if_pos rfl] at here
    by_cases unchanged : candidate.result.stateAt path = original.stateAt path
    · exact ⟨⟨fun _ => .inl unchanged, fun _ => .inl unchanged⟩, by
        rw [overlay_of_unchanged unchanged, here]⟩
    rw [overlay_of_changed unchanged] at here
    refine ⟨⟨fun _ => fits, fun _ => .inr (.inr here)⟩, ?_⟩
    rw [overlay_of_changed unchanged, overlay_of_changed unchanged]
  rw [if_neg equal] at here
  unfold FitsAt overlay
  rw [here]
  exact ⟨Iff.rfl, rfl⟩

variable {paths : List String}

theorem mergePaths_of_fits (fits : ∀ path ∈ paths, FitsAt original candidate state path) :
    ∃ after, paths.foldlM (mergePath original candidate) state = .ok after ∧ ∀ other,
      after.1.stateAt other = if other ∈ paths then
        overlay original.stateAt state.1.stateAt candidate.result.stateAt other
      else state.1.stateAt other := by
  induction paths generalizing state with
  | nil => exact ⟨state, rfl, fun other => rfl⟩
  | cons path rest ih =>
    rw [forall_mem_cons] at fits
    obtain ⟨next, merged, states⟩ := mergePath_of_fits fits.1
    obtain ⟨after, restMerged, restStates⟩ := ih fun other member =>
      (fitsAt_congr fits.1 states other).1.2 (fits.2 other member)
    refine ⟨after, ?_, ?_⟩
    · rw [foldlM_cons]
      exact bind_eq_ok.2 ⟨next, merged, restMerged⟩
    intro other
    rw [restStates, (fitsAt_congr fits.1 states other).2]
    by_cases later : other ∈ rest
    · rw [if_pos later, if_pos (mem_cons_of_mem _ later)]
    rw [if_neg later, states]
    by_cases here : path = other
    · rw [if_pos here, if_pos (by rw [here]; exact mem_cons_self)]
    rw [if_neg here, if_neg]
    intro member
    rcases mem_cons.1 member with equal | inRest
    · exact here equal.symm
    exact later inRest

theorem fits_of_mergePaths
    (merged : paths.foldlM (mergePath original candidate) state = .ok after) :
    ∀ path ∈ paths, FitsAt original candidate state path := by
  induction paths generalizing state with
  | nil =>
    intro path member
    cases member
  | cons path rest ih =>
    rw [foldlM_cons] at merged
    obtain ⟨next, first, later⟩ := bind_eq_ok.1 merged
    have fits := fitsAt_of_mergePath first
    obtain ⟨same, isSame, states⟩ := mergePath_of_fits fits
    rw [first] at isSame
    cases isSame
    rw [forall_mem_cons]
    exact ⟨fits, fun other member => (fitsAt_congr fits states other).1.1 (ih later other member)⟩

theorem unchanged_of_not_mem (missing : path ∉ (ExtTreeSet.ofList
      (original.files.keys ++ candidate.result.files.keys)).toList) :
    candidate.result.stateAt path = original.stateAt path := by
  rw [ExtTreeSet.mem_toList, ExtTreeSet.mem_ofList, contains_iff_mem, mem_append,
    ExtTreeMap.mem_keys, ExtTreeMap.mem_keys] at missing
  push Not at missing
  unfold WorktreeCheckpointCapture.stateAt
  rw [ExtTreeMap.getElem?_eq_none missing.1, ExtTreeMap.getElem?_eq_none missing.2]

theorem mergeCandidate_of_fits
    (fits : Fits original.stateAt state.1.stateAt candidate.result.stateAt) :
    ∃ after, mergeCandidate original candidate state = .ok after ∧
      after.1.stateAt = overlay original.stateAt state.1.stateAt candidate.result.stateAt := by
  have paths : ∃ after, mergeCandidate original candidate state = .ok after ∧ _ :=
    mergePaths_of_fits fun path _ => fits path
  obtain ⟨after, merged, states⟩ := paths
  refine ⟨after, merged, ?_⟩
  funext path
  rw [states]
  split
  · rfl
  rename_i missing
  rw [overlay_of_unchanged (unchanged_of_not_mem missing)]

theorem fits_of_mergeCandidate (merged : mergeCandidate original candidate state = .ok after) :
    Fits original.stateAt state.1.stateAt candidate.result.stateAt ∧
      after.1.stateAt = overlay original.stateAt state.1.stateAt candidate.result.stateAt := by
  have fits : Fits original.stateAt state.1.stateAt candidate.result.stateAt := by
    intro path
    by_cases member : path ∈ (ExtTreeSet.ofList
        (original.files.keys ++ candidate.result.files.keys)).toList
    · exact fits_of_mergePaths merged path member
    exact .inl (unchanged_of_not_mem member)
  obtain ⟨same, isSame, states⟩ := mergeCandidate_of_fits fits
  rw [merged] at isSame
  cases isSame
  exact ⟨fits, states⟩

end Candidate

/-! ### The prerequisites -/

/-- The result of a prerequisite is there and its worktree still shows it. -/
def Loads (env : MergeEnv) (set : StoredWorkSet) (id : Uuid) (candidate : Candidate) : Prop :=
  loadIntegrationCandidate env set id = .ok candidate ∧
    env.matchesTarget candidate.candidate = .ok true

variable {id : Uuid}

theorem Loads.unique {env : MergeEnv} {set : StoredWorkSet} {first second : Candidate}
    (left : Loads env set id first) (right : Loads env set id second) : first = second :=
  Except.ok.inj (left.1.symm.trans right.1)

section Tasks

variable {env : MergeEnv} {set : StoredWorkSet} {original : WorktreeCheckpointCapture}
  {state after : MergeState} {id : Uuid} {ids : List Uuid}

theorem find?_of_loads {candidate : Candidate} (loads : Loads env set id candidate) :
    ∃ task, (set.view.tasks.find? fun task => task.taskId = id) = some task ∧ task.taskId = id := by
  obtain ⟨loaded, _⟩ := loads
  unfold loadIntegrationCandidate at loaded
  obtain ⟨_, _, loaded⟩ := bind_eq_ok.1 loaded
  split at loaded
  · cases loaded
  rename_i task found
  exact ⟨task, found, by simpa using find?_some found⟩

theorem mergeTask_eq_ok : mergeTask env set original state id = .ok after ↔
    ∃ candidate, Loads env set id candidate ∧ mergeCandidate original candidate state = .ok after := by
  constructor
  · intro merged
    obtain ⟨task, found, merged⟩ := bind_eq_ok.1 merged
    obtain ⟨candidate, loaded, merged⟩ := bind_eq_ok.1 merged
    obtain ⟨same, matching, merged⟩ := bind_eq_ok.1 merged
    cases same with
    | false => cases merged
    | true =>
      have isId : task.taskId = id := by
        unfold orConflict at found
        split at found
        · rename_i other isTask
          cases found
          simpa using find?_some isTask
        cases found
      rw [isId] at loaded
      exact ⟨candidate, ⟨loaded, matching⟩, merged⟩
  intro ⟨candidate, loads, merged⟩
  obtain ⟨task, found, isId⟩ := find?_of_loads loads
  apply bind_eq_ok.2
  refine ⟨task, by rw [found]; rfl, ?_⟩
  rw [isId]
  apply bind_eq_ok.2
  refine ⟨candidate, loads.1, ?_⟩
  apply bind_eq_ok.2
  exact ⟨true, loads.2, merged⟩

/-- What a merge of the prerequisites needs: their results, which fit on top of each other in turn. -/
structure Merges (env : MergeEnv) (set : StoredWorkSet) (original : WorktreeCheckpointCapture)
    (state : MergeState) (ids : List Uuid) (candidates : List Candidate) : Prop where
  loads : List.Forall₂ (Loads env set) ids candidates
  fits : FitInTurn original.stateAt state.1.stateAt
    (candidates.map fun candidate => candidate.result.stateAt)

theorem mergeTasks_of_merges {candidates : List Candidate}
    (merges : Merges env set original state ids candidates) :
    ∃ after, ids.foldlM (mergeTask env set original) state = .ok after ∧
      after.1.stateAt = (candidates.map fun candidate => candidate.result.stateAt).foldl
        (overlay original.stateAt) state.1.stateAt := by
  obtain ⟨loads, fits⟩ := merges
  induction loads generalizing state with
  | nil => exact ⟨state, rfl, rfl⟩
  | cons here _ ih =>
    rw [map_cons, FitInTurn] at fits
    obtain ⟨next, merged, states⟩ := mergeCandidate_of_fits fits.1
    rw [← states] at fits
    obtain ⟨after, later, laterStates⟩ := ih fits.2
    refine ⟨after, ?_, ?_⟩
    · rw [foldlM_cons]
      exact bind_eq_ok.2 ⟨next, mergeTask_eq_ok.2 ⟨_, here, merged⟩, later⟩
    rw [laterStates, map_cons, foldl_cons, states]

theorem merges_of_mergeTasks (merged : ids.foldlM (mergeTask env set original) state = .ok after) :
    ∃ candidates, Merges env set original state ids candidates := by
  induction ids generalizing state with
  | nil => exact ⟨[], .nil, trivial⟩
  | cons id rest ih =>
    rw [foldlM_cons] at merged
    obtain ⟨next, first, later⟩ := bind_eq_ok.1 merged
    obtain ⟨candidate, loads, isNext⟩ := mergeTask_eq_ok.1 first
    obtain ⟨fits, states⟩ := fits_of_mergeCandidate isNext
    obtain ⟨candidates, restLoads, restFits⟩ := ih later
    refine ⟨candidate :: candidates, .cons loads restLoads, fits, ?_⟩
    rw [← states]
    exact restFits

end Tasks

/-- The prerequisites of a task that no other one leads to. -/
def Maximal (tasks : List AgentWorkItem) (task : AgentWorkItem) (id : Uuid) : Prop :=
  id ∈ task.dependsOn ∧
    ∀ other ∈ task.dependsOn, other ≠ id → ¬TransGen (DependsOn tasks) id other

theorem mem_maximal_iff (set : AcceptedWorkSet) {task : AgentWorkItem}
    (member : task ∈ set.view.tasks) :
    id ∈ maximal set.view.tasks task.dependsOn ↔ Maximal set.view.tasks task id := by
  have found : ∀ other ∈ task.dependsOn,
      (ancestor set.view.tasks id other = true ↔ TransGen (DependsOn set.view.tasks) id other) :=
    fun other depends => set.ancestor_iff (set.known_of_dependsOn ⟨task, member, rfl, depends⟩)
  unfold maximal Maximal
  rw [mem_filter, Bool.not_eq_true', any_eq_false]
  constructor
  · intro ⟨depends, alone⟩
    refine ⟨depends, ?_⟩
    intro other isOther differs leads
    apply alone other isOther
    rw [Bool.and_eq_true]
    exact ⟨decide_eq_true differs, (found other isOther).2 leads⟩
  intro ⟨depends, alone⟩
  refine ⟨depends, ?_⟩
  intro other isOther both
  rw [Bool.and_eq_true] at both
  exact alone other isOther (of_decide_eq_true both.1) ((found other isOther).1 both.2)

/-- Every maximal prerequisite has its result, and no two of them changed a file differently. -/
structure Mergeable (env : MergeEnv) (set : StoredWorkSet) (task : AgentWorkItem) : Prop where
  source : ∃ original, sourceRecord env set = .ok original
  loads : ∀ id, Maximal set.view.tasks task id → ∃ candidate, Loads env set id candidate
  agree : ∀ original, sourceRecord env set = .ok original →
    ∀ first second left right, Maximal set.view.tasks task first →
      Maximal set.view.tasks task second → Loads env set first left →
      Loads env set second right →
        Agree original.stateAt left.result.stateAt right.result.stateAt

/-- What a successful merge gives: the changes of the prerequisites on top of the original. -/
structure Merged (env : MergeEnv) (set : StoredWorkSet) (original : WorktreeCheckpointCapture)
    (ids : List Uuid) (desired : WorktreeCheckpointCapture) : Prop where
  changed : ∀ id ∈ ids, ∀ candidate, Loads env set id candidate → ∀ path,
    candidate.result.stateAt path ≠ original.stateAt path →
      desired.stateAt path = candidate.result.stateAt path
  unchanged : ∀ path, (∀ id ∈ ids, ∀ candidate, Loads env set id candidate →
    candidate.result.stateAt path = original.stateAt path) →
      desired.stateAt path = original.stateAt path

section Paired

variable {α β : Type} {r : α → β → Prop} {left : List α} {right : List β}

theorem exists_right_of_mem (paired : List.Forall₂ r left right) {a : α} (member : a ∈ left) :
    ∃ b ∈ right, r a b := by
  induction paired with
  | nil => cases member
  | cons here _ ih =>
    rcases mem_cons.1 member with equal | later
    · rw [equal]
      exact ⟨_, mem_cons_self, here⟩
    obtain ⟨b, inRest, related⟩ := ih later
    exact ⟨b, mem_cons_of_mem _ inRest, related⟩

theorem exists_left_of_mem (paired : List.Forall₂ r left right) {b : β} (member : b ∈ right) :
    ∃ a ∈ left, r a b :=
  exists_right_of_mem paired.flip member

theorem exists_forall₂ (each : ∀ a ∈ left, ∃ b, r a b) : ∃ right, List.Forall₂ r left right := by
  induction left with
  | nil => exact ⟨[], .nil⟩
  | cons a rest ih =>
    rw [forall_mem_cons] at each
    obtain ⟨b, here⟩ := each.1
    obtain ⟨others, later⟩ := ih each.2
    exact ⟨b :: others, .cons here later⟩

end Paired

section Desired

variable {env : MergeEnv} {set : StoredWorkSet} {original : WorktreeCheckpointCapture}
  {blobs : ExtTreeMap String String} {ids : List Uuid} {after : MergeState}

theorem merged_of_mergeTasks
    (merged : ids.foldlM (mergeTask env set original) (original, blobs) = .ok after) :
    Merged env set original ids after.1 ∧
      ∀ first ∈ ids, ∀ second ∈ ids, ∀ left right, Loads env set first left →
        Loads env set second right →
          Agree original.stateAt left.result.stateAt right.result.stateAt := by
  obtain ⟨candidates, merges⟩ := merges_of_mergeTasks merged
  obtain ⟨same, isSame, states⟩ := mergeTasks_of_merges merges
  rw [merged] at isSame
  cases isSame
  have agree := fitInTurn_base_iff.1 merges.fits
  refine ⟨?_, ?_⟩
  · constructor
    · intro id member candidate loads path changed
      obtain ⟨found, inCandidates, isFound⟩ := exists_right_of_mem merges.loads member
      have isCandidate := isFound.unique loads
      subst isCandidate
      rw [states]
      exact foldl_overlay_of_changed agree (mem_map_of_mem inCandidates) changed
    · intro path unchanged
      rw [states]
      apply foldl_overlay_of_unchanged
      intro version member
      obtain ⟨candidate, inCandidates, isVersion⟩ := mem_map.1 member
      obtain ⟨id, isId, loads⟩ := exists_left_of_mem merges.loads inCandidates
      rw [← isVersion]
      exact unchanged id isId candidate loads
  intro first isFirst second isSecond left right leftLoads rightLoads
  obtain ⟨found, inLeft, isLeft⟩ := exists_right_of_mem merges.loads isFirst
  obtain ⟨other, inRight, isRight⟩ := exists_right_of_mem merges.loads isSecond
  have sameLeft := isLeft.unique leftLoads
  have sameRight := isRight.unique rightLoads
  subst sameLeft
  subst sameRight
  exact List.Pairwise.forall_of_forall (fun version _ => Agree.refl _ version) agree
    (mem_map_of_mem inLeft) (mem_map_of_mem inRight)

theorem mergeTasks_of_agree (loads : ∀ id ∈ ids, ∃ candidate, Loads env set id candidate)
    (agree : ∀ first ∈ ids, ∀ second ∈ ids, ∀ left right, Loads env set first left →
      Loads env set second right →
        Agree original.stateAt left.result.stateAt right.result.stateAt) :
    ∃ after, ids.foldlM (mergeTask env set original) (original, blobs) = .ok after := by
  obtain ⟨candidates, paired⟩ := exists_forall₂ loads
  have fits : FitInTurn original.stateAt original.stateAt
      (candidates.map fun candidate => candidate.result.stateAt) := by
    apply fitInTurn_base_iff.2
    apply pairwise_map.2
    apply pairwise_of_forall_mem_list
    intro left inLeft right inRight
    obtain ⟨first, isFirst, leftLoads⟩ := exists_left_of_mem paired inLeft
    obtain ⟨second, isSecond, rightLoads⟩ := exists_left_of_mem paired inRight
    exact agree first isFirst second isSecond left right leftLoads rightLoads
  have merges : Merges env set original (original, blobs) ids candidates := ⟨paired, fits⟩
  obtain ⟨after, merged, _⟩ := mergeTasks_of_merges merges
  exact ⟨after, merged⟩

end Desired

section Input

variable {env : MergeEnv} {set : AcceptedWorkSet} {task : AgentWorkItem}

theorem merged_of_desiredInput (member : task ∈ set.view.tasks) {after : MergeState}
    (desired : desiredInput env set.toStoredWorkSet task = .ok after) :
    Mergeable env set.toStoredWorkSet task ∧
      ∃ original, sourceRecord env set.toStoredWorkSet = .ok original ∧
        Merged env set.toStoredWorkSet original (maximal set.view.tasks task.dependsOn) after.1 := by
  obtain ⟨original, found, merged⟩ := bind_eq_ok.1 desired
  obtain ⟨isMerged, agree⟩ := merged_of_mergeTasks merged
  refine ⟨?_, original, found, isMerged⟩
  constructor
  · exact ⟨original, found⟩
  · intro id isMaximal
    obtain ⟨candidates, merges⟩ := merges_of_mergeTasks merged
    obtain ⟨candidate, _, loads⟩ := exists_right_of_mem merges.loads
      ((mem_maximal_iff set member).2 isMaximal)
    exact ⟨candidate, loads⟩
  intro other isOther first second left right isFirst isSecond leftLoads rightLoads
  rw [found] at isOther
  cases isOther
  exact agree first ((mem_maximal_iff set member).2 isFirst) second
    ((mem_maximal_iff set member).2 isSecond) left right leftLoads rightLoads

theorem desiredInput_of_mergeable (member : task ∈ set.view.tasks)
    (mergeable : Mergeable env set.toStoredWorkSet task) :
    ∃ after, desiredInput env set.toStoredWorkSet task = .ok after := by
  obtain ⟨original, found⟩ := mergeable.source
  have tasks : ∃ after, (maximal set.view.tasks task.dependsOn).foldlM
      (mergeTask env set.toStoredWorkSet original)
      (original, sourceBlobs env set.toStoredWorkSet original) = .ok after :=
    mergeTasks_of_agree
      (fun id isMaximal => mergeable.loads id ((mem_maximal_iff set member).1 isMaximal))
      fun first isFirst second isSecond left right leftLoads rightLoads =>
        mergeable.agree original found first second left right
          ((mem_maximal_iff set member).1 isFirst) ((mem_maximal_iff set member).1 isSecond)
          leftLoads rightLoads
  obtain ⟨after, merged⟩ := tasks
  exact ⟨after, bind_eq_ok.2 ⟨original, found, merged⟩⟩

/-- Every file that a maximal prerequisite changed from its own input is in the desired input as the
prerequisite left it. -/
def KeepsEdits (env : MergeEnv) (set : StoredWorkSet) (task : AgentWorkItem)
    (prepared : Uuid → WorktreeCheckpointCapture) : Prop :=
  ∀ desired blobs, desiredInput env set task = .ok (desired, blobs) →
    ∀ id candidate, Maximal set.view.tasks task id → Loads env set id candidate → ∀ path,
      candidate.result.stateAt path ≠ (prepared id).stateAt path →
        desired.stateAt path = candidate.result.stateAt path

/-- Where a maximal prerequisite takes a file back to the original, no other one has changed it. -/
def Unreverted (env : MergeEnv) (set : StoredWorkSet) (task : AgentWorkItem)
    (prepared : Uuid → WorktreeCheckpointCapture) : Prop :=
  ∀ original, sourceRecord env set = .ok original →
    ∀ id candidate, Maximal set.view.tasks task id → Loads env set id candidate → ∀ path,
      candidate.result.stateAt path = original.stateAt path →
      candidate.result.stateAt path ≠ (prepared id).stateAt path →
        ∀ other result, Maximal set.view.tasks task other → Loads env set other result →
          result.result.stateAt path = original.stateAt path

theorem keepsEdits_iff (member : task ∈ set.view.tasks)
    (prepared : Uuid → WorktreeCheckpointCapture) :
    KeepsEdits env set.toStoredWorkSet task prepared ↔
      (Mergeable env set.toStoredWorkSet task → Unreverted env set.toStoredWorkSet task prepared) := by
  constructor
  · intro keeps mergeable original found id candidate isMaximal loads path back edited other result
      isOther otherLoads
    obtain ⟨⟨desired, blobs⟩, isDesired⟩ := desiredInput_of_mergeable member mergeable
    obtain ⟨_, same, isSame, merged⟩ := merged_of_desiredInput member isDesired
    rw [found] at isSame
    cases isSame
    have kept := keeps desired blobs isDesired id candidate isMaximal loads path edited
    by_contra changed
    have taken := merged.changed other ((mem_maximal_iff set member).2 isOther) result otherLoads path
      changed
    exact changed (taken.symm.trans (kept.trans back))
  intro unreverted desired blobs isDesired id candidate isMaximal loads path edited
  obtain ⟨mergeable, original, found, merged⟩ := merged_of_desiredInput member isDesired
  by_cases back : candidate.result.stateAt path = original.stateAt path
  · rw [back]
    apply merged.unchanged
    intro other inOther result otherLoads
    exact unreverted mergeable original found id candidate isMaximal loads path back edited other
      result ((mem_maximal_iff set member).1 inOther) otherLoads
  exact merged.changed id ((mem_maximal_iff set member).2 isMaximal) candidate loads path back

/-! ### The order of the prerequisites -/

def reorderTask (taskId : Uuid) (dependsOn : List Uuid) (task : AgentWorkItem) : AgentWorkItem :=
  if task.taskId = taskId then { task with dependsOn := dependsOn } else task

def reorder (set : StoredWorkSet) (taskId : Uuid) (dependsOn : List Uuid) : StoredWorkSet :=
  { set with view := { set.view with tasks := set.view.tasks.map (reorderTask taskId dependsOn) } }

@[simp] theorem taskId_reorderTask (taskId : Uuid) (dependsOn : List Uuid) (task : AgentWorkItem) :
    (reorderTask taskId dependsOn task).taskId = task.taskId := by
  unfold reorderTask
  split
  · rfl
  rfl

theorem find?_reorder (tasks : List AgentWorkItem) (taskId : Uuid) (dependsOn : List Uuid)
    (id : Uuid) : ((tasks.map (reorderTask taskId dependsOn)).find? fun task => task.taskId = id) =
      (tasks.find? fun task => task.taskId = id).map (reorderTask taskId dependsOn) := by
  rw [find?_map]
  congr 2
  funext task
  simp

theorem loadIntegrationCandidate_reorder (set : StoredWorkSet) (taskId : Uuid)
    (dependsOn : List Uuid) (id : Uuid) :
    loadIntegrationCandidate env (reorder set taskId dependsOn) id =
      loadIntegrationCandidate env set id := by
  unfold loadIntegrationCandidate
  rw [show (reorder set taskId dependsOn).view.tasks =
    set.view.tasks.map (reorderTask taskId dependsOn) from rfl, find?_reorder]
  cases set.view.tasks.find? fun task => task.taskId = id with
  | none => rfl
  | some task =>
    rw [Option.map_some]
    by_cases same : task.taskId = taskId
    · rw [show reorderTask taskId dependsOn task = { task with dependsOn := dependsOn } from
        if_pos same]
      rfl
    rw [show reorderTask taskId dependsOn task = task from if_neg same]
    rfl

theorem loads_reorder (set : StoredWorkSet) (taskId : Uuid) (dependsOn : List Uuid) (id : Uuid)
    (candidate : Candidate) :
    Loads env (reorder set taskId dependsOn) id candidate ↔ Loads env set id candidate := by
  unfold Loads
  rw [loadIntegrationCandidate_reorder]

variable {dependsOn : List Uuid}

theorem ancestorWithin_reorder (member : task ∈ set.view.tasks)
    (perm : dependsOn.Perm task.dependsOn) (ancestor : Uuid) (depth : ℕ) (id : Uuid) :
    ancestorWithin (set.view.tasks.map (reorderTask task.taskId dependsOn)) ancestor depth id =
      ancestorWithin set.view.tasks ancestor depth id := by
  induction depth generalizing id with
  | zero => rfl
  | succ depth ih =>
    rw [ancestorWithin, ancestorWithin, find?_reorder]
    cases found : set.view.tasks.find? fun other => other.taskId = id with
    | none => rfl
    | some other =>
      rw [Option.map_some, Option.any_some, Option.any_some]
      have inner : ancestorWithin (set.view.tasks.map (reorderTask task.taskId dependsOn))
          ancestor depth = ancestorWithin set.view.tasks ancestor depth := funext ih
      rw [inner]
      unfold reorderTask
      split
      · rename_i same
        have isTask := set.eq_of_taskId (mem_of_find?_eq_some found) member same
        rw [isTask]
        dsimp only
        rw [perm.contains_eq, perm.any_eq]
      rfl

/-- Two merges both fail, or both succeed with the same file states. -/
def SameFiles : Except LocalWtsError MergeState → Except LocalWtsError MergeState → Prop
  | .ok first, .ok second => ∀ path, first.1.stateAt path = second.1.stateAt path
  | .error _, .error _ => True
  | _, _ => False

theorem sameFiles_of_perm {original : WorktreeCheckpointCapture} {other : StoredWorkSet}
    {ids others : List Uuid} {blobs : ExtTreeMap String String}
    (same : ∀ id candidate, Loads env other id candidate ↔ Loads env set.toStoredWorkSet id candidate)
    (perm : others.Perm ids) :
    SameFiles (ids.foldlM (mergeTask env set.toStoredWorkSet original) (original, blobs))
      (others.foldlM (mergeTask env other original) (original, blobs)) := by
  cases first : ids.foldlM (mergeTask env set.toStoredWorkSet original) (original, blobs) with
  | ok after =>
    obtain ⟨merged, agree⟩ := merged_of_mergeTasks first
    obtain ⟨candidates, merges⟩ := merges_of_mergeTasks first
    have loads : ∀ id ∈ others, ∃ candidate, Loads env other id candidate := by
      intro id member
      obtain ⟨candidate, _, isLoaded⟩ := exists_right_of_mem merges.loads (perm.mem_iff.1 member)
      exact ⟨candidate, (same id candidate).2 isLoaded⟩
    have tasks : ∃ also, others.foldlM (mergeTask env other original) (original, blobs) =
        .ok also :=
      mergeTasks_of_agree loads fun first isFirst second isSecond left right leftLoads rightLoads =>
          agree first (perm.mem_iff.1 isFirst) second (perm.mem_iff.1 isSecond) left right
            ((same _ _).1 leftLoads) ((same _ _).1 rightLoads)
    obtain ⟨also, second⟩ := tasks
    rw [second]
    intro path
    have alsoMerged := (merged_of_mergeTasks second).1
    by_cases changed : ∃ id ∈ ids, ∃ candidate, Loads env set.toStoredWorkSet id candidate ∧
        candidate.result.stateAt path ≠ original.stateAt path
    · obtain ⟨id, member, candidate, isLoaded, differs⟩ := changed
      rw [merged.changed id member candidate isLoaded path differs,
        alsoMerged.changed id (perm.mem_iff.2 member) candidate ((same _ _).2 isLoaded) path
          differs]
    push Not at changed
    rw [merged.unchanged path changed, alsoMerged.unchanged]
    intro id member candidate isLoaded
    exact changed id (perm.mem_iff.1 member) candidate ((same _ _).1 isLoaded)
  | error error =>
    cases second : others.foldlM (mergeTask env other original) (original, blobs) with
    | error _ => trivial
    | ok after =>
      obtain ⟨_, agree⟩ := merged_of_mergeTasks second
      obtain ⟨candidates, merges⟩ := merges_of_mergeTasks second
      have loads : ∀ id ∈ ids, ∃ candidate, Loads env set.toStoredWorkSet id candidate := by
        intro id member
        obtain ⟨candidate, _, isLoaded⟩ :=
          exists_right_of_mem merges.loads (perm.mem_iff.2 member)
        exact ⟨candidate, (same id candidate).1 isLoaded⟩
      have tasks : ∃ also, ids.foldlM (mergeTask env set.toStoredWorkSet original)
          (original, blobs) = .ok also :=
        mergeTasks_of_agree loads
          fun first isFirst second isSecond left right leftLoads rightLoads =>
            agree first (perm.mem_iff.2 isFirst) second (perm.mem_iff.2 isSecond) left right
              ((same _ _).2 leftLoads) ((same _ _).2 rightLoads)
      obtain ⟨also, isAlso⟩ := tasks
      rw [first] at isAlso
      cases isAlso

theorem desiredInput_reorder (member : task ∈ set.view.tasks)
    (perm : dependsOn.Perm task.dependsOn) : SameFiles (desiredInput env set.toStoredWorkSet task)
      (desiredInput env (reorder set.toStoredWorkSet task.taskId dependsOn)
        { task with dependsOn := dependsOn }) := by
  have ancestors : ∀ id other,
      ancestor (set.view.tasks.map (reorderTask task.taskId dependsOn)) id other =
        ancestor set.view.tasks id other := by
    intro id other
    unfold ancestor
    rw [length_map]
    exact ancestorWithin_reorder member perm id _ other
  have permMaximal : (maximal (set.view.tasks.map (reorderTask task.taskId dependsOn))
      dependsOn).Perm (maximal set.view.tasks task.dependsOn) := by
    unfold maximal
    have samePredicate : (fun id => !dependsOn.any fun other => other ≠ id &&
        ancestor (set.view.tasks.map (reorderTask task.taskId dependsOn)) id other) =
        fun id => !task.dependsOn.any fun other => other ≠ id &&
          ancestor set.view.tasks id other := by
      funext id
      simp only [ancestors]
      rw [perm.any_eq]
    rw [samePredicate]
    exact perm.filter _
  show SameFiles (sourceRecord env set.toStoredWorkSet >>= _)
    (sourceRecord env set.toStoredWorkSet >>= _)
  cases found : sourceRecord env set.toStoredWorkSet with
  | error error => trivial
  | ok original =>
    exact sameFiles_of_perm (loads_reorder set.toStoredWorkSet task.taskId dependsOn) permMaximal

end Input

def sampleTask (taskId : Uuid) (dependsOn : List Uuid) : AgentWorkItem where
  taskId := taskId
  title := "Edit the notes"
  prompt := "Edit the notes."
  dependsOn := dependsOn
  state := .completed
  conversationId := taskId + 20
  requestId := taskId + 40
  workspaceId := some (taskId + 60)
  repositoryId := some "orders"
  workspaceDisplayPath := some "/work/task"
  afterCheckpointId := some (taskId + 80)
  detail := "The agent finished."

def sampleTasks : List AgentWorkItem :=
  [sampleTask 1 [], sampleTask 2 [1], sampleTask 3 [1], sampleTask 4 [2, 3]]

def sampleSet : AcceptedWorkSet where
  request :=
    { requestId := 9
      expectedAfterCheckpointId := 10
      kind := .tasks
      tasks := sampleTasks.map fun task =>
        { taskId := task.taskId
          title := task.title
          prompt := task.prompt
          dependsOn := task.dependsOn } }
  view :=
    { schemaVersion := 1
      workSetId := 9
      conversationId := 11
      requestId := 12
      workspaceId := 13
      repositoryId := "orders"
      sourceCheckpointId := 10
      sourceContextSha256 := "context"
      kind := .tasks
      revision := 1
      createdAtUnixMs := 0
      updatedAtUnixMs := 0
      lastMutationRequestId := none
      tasks := sampleTasks
      detail := "" }
  sourceSessionId := 14
  sourceTargetIdentity := "root"
  cancellations := []
  accepted := by decide +kernel

def sampleChanges (conversationId : Uuid) : TurnChanges where
  sessionId := if conversationId = 11 then 14 else conversationId + 80
  workspaceId := if conversationId = 11 then 13 else conversationId + 40
  repositoryId := "orders"
  sourceContextSha256 := "context"
  state := .ready
  observation := .normal
  afterCheckpointId := some (if conversationId = 11 then 10 else conversationId + 60)

def sampleEnv : MergeEnv where
  turnChanges := fun conversationId _ => .ok (sampleChanges conversationId)
  record := fun sessionId => .ok
    { targetIdentity := "root"
      after := some (sampleCapture
        (if sessionId = 101 ∨ sessionId = 103 then "new" else "old")).toWorktreeCheckpointCapture }
  readable := .ok ()
  checkTarget := fun conversationId _ => .ok
    { receipt := sampleChanges conversationId
      source := some
        { workSetId := 9
          taskId := conversationId - 20
          originConversationId := 11
          originRequestId := 12 } }
  matchesTarget := fun _ => .ok true
  turnDir := fun _ => "/turns"

def samplePrepared (id : Uuid) : WorktreeCheckpointCapture :=
  match sampleTasks.find? fun task => task.taskId = id with
  | some task =>
    match desiredInput sampleEnv sampleSet.toStoredWorkSet task with
    | .ok (desired, _) => desired
    | .error _ => (sampleCapture "old").toWorktreeCheckpointCapture
  | none => (sampleCapture "old").toWorktreeCheckpointCapture

/-- Whatever the prerequisites were prepared with: when the merge succeeds, no edit of a maximal
prerequisite is lost, exactly when none of them took a file back to the original that another one
changed. -/
theorem desiredInput_keeps_edits_iff (env : MergeEnv) (set : AcceptedWorkSet) (task : AgentWorkItem)
    (member : task ∈ set.view.tasks) (prepared : Uuid → WorktreeCheckpointCapture) :
    (KeepsEdits env set.toStoredWorkSet task prepared ↔ (Mergeable env set.toStoredWorkSet task →
        Unreverted env set.toStoredWorkSet task prepared)) ∧
    ∀ dependsOn, dependsOn.Perm task.dependsOn →
      SameFiles (desiredInput env set.toStoredWorkSet task)
        (desiredInput env (reorder set.toStoredWorkSet task.taskId dependsOn)
          { task with dependsOn := dependsOn }) :=
  ⟨keepsEdits_iff member prepared, fun _ perm => desiredInput_reorder member perm⟩

/-- The sample's fourth task gets one input for both orders of its prerequisites. -/
theorem desiredInput_keeps_edits_sample :
    SameFiles (desiredInput sampleEnv sampleSet.toStoredWorkSet (sampleTask 4 [2, 3]))
      (desiredInput sampleEnv (reorder sampleSet.toStoredWorkSet 4 [3, 2]) (sampleTask 4 [3, 2])) :=
  (desiredInput_keeps_edits_iff sampleEnv sampleSet (sampleTask 4 [2, 3])
    (.tail _ (.tail _ (.tail _ (.head _)))) samplePrepared).2 [3, 2] (.swap 2 3 [])

/-- The second task of the sample takes the notes back to their original contents, and the input of the
fourth task has the contents that the third task left. -/
theorem lost_edit_counterexample :
    ¬∀ (env : MergeEnv) (set : AcceptedWorkSet) (prepared : Uuid → WorktreeCheckpointCapture),
      (∀ task ∈ set.view.tasks, ∀ desired blobs,
        desiredInput env set.toStoredWorkSet task = .ok (desired, blobs) →
          prepared task.taskId = desired) →
      ∀ task ∈ set.view.tasks, KeepsEdits env set.toStoredWorkSet task prepared := by
  intro keeps
  have isPrepared : ∀ task ∈ sampleSet.view.tasks, ∀ desired blobs,
      desiredInput sampleEnv sampleSet.toStoredWorkSet task = .ok (desired, blobs) →
        samplePrepared task.taskId = desired := by
    intro task member desired blobs isDesired
    have found : (sampleTasks.find? fun other => other.taskId = task.taskId) = some task :=
      sampleSet.find?_of_mem member
    unfold samplePrepared
    rw [found]
    dsimp only
    rw [isDesired]
  have last : sampleTask 4 [2, 3] ∈ sampleSet.view.tasks := .tail _ (.tail _ (.tail _ (.head _)))
  have isMaximal : Maximal sampleSet.view.tasks (sampleTask 4 [2, 3]) 2 :=
    (mem_maximal_iff sampleSet last).1 (by decide +kernel)
  have loads : Loads sampleEnv sampleSet.toStoredWorkSet 2
      { candidate :=
          { receipt := sampleChanges 22
            source := some
              { workSetId := 9
                taskId := 2
                originConversationId := 11
                originRequestId := 12 } }
        result := (sampleCapture "old").toWorktreeCheckpointCapture
        resultBlobDir := "/turns" } := ⟨rfl, rfl⟩
  have succeeds : (desiredInput sampleEnv sampleSet.toStoredWorkSet
      (sampleTask 4 [2, 3])).toOption.map (fun state => state.1.stateAt "notes.md") =
        some (some { sha256 := "new", mode := 420 }) := by decide +kernel
  cases isDesired : desiredInput sampleEnv sampleSet.toStoredWorkSet (sampleTask 4 [2, 3]) with
  | error error =>
    rw [isDesired] at succeeds
    cases succeeds
  | ok state =>
    rw [isDesired] at succeeds
    have kept := keeps sampleEnv sampleSet samplePrepared isPrepared _ last state.1 state.2
      isDesired 2 _ isMaximal loads "notes.md" (by decide +kernel)
    have taken : state.1.stateAt "notes.md" = some { sha256 := "new", mode := 420 } :=
      Option.some.inj succeeds
    rw [taken] at kept
    exact absurd kept (by decide +kernel)

end Wts.WorkSets
