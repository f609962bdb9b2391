/-
Module: Wts.Proofs.WorktreePlans
Purpose: Which saved repository an operation finds for a worktree.
Trusted boundary: none
Main exports: uses_own_plan_iff
-/
import Wts.App.ChangeRequests
import Wts.Proofs.StoreCreate
import Wts.Proofs.WorkspaceSetup

namespace Wts.ChangeRequests

open Text Workspace Worktree Materialization List
open Store (WorkspaceView WorkspaceRepositoryPlan)
open Wts.CodeWorkspace (eqIgnoreAsciiCase)

/-! ### The matching as a result -/

def matchedPositions (worktrees : List MaterializedWorktree) :
    List WorkspaceRepositoryPlan → List Bool → Option (List ℕ)
  | [], matched => if matched.all id then some [] else none
  | plan :: rest, matched =>
    match candidates plan worktrees matched with
    | [index] => (matchedPositions worktrees rest (matched.set index true)).map (index :: ·)
    | _ => none

variable {worktrees : List MaterializedWorktree} {plans : List WorkspaceRepositoryPlan}
  {matched : List Bool} {positions : List ℕ}

theorem matchPlans_eq_isSome : matchPlans worktrees plans matched =
    (matchedPositions worktrees plans matched).isSome := by
  induction plans generalizing matched with
  | nil =>
    rw [matchPlans, matchedPositions]
    split
    · rename_i all
      exact all
    rename_i some_
    exact Bool.eq_false_iff.2 some_
  | cons plan rest ih =>
    rw [matchPlans, matchedPositions]
    rcases candidates plan worktrees matched with _ | ⟨index, _ | ⟨_, _⟩⟩
    · rfl
    · simp only [ih, Option.isSome_map]
    rfl

theorem mem_candidates {plan : WorkspaceRepositoryPlan} {index : ℕ} :
    index ∈ candidates plan worktrees matched ↔ matched[index]? = some false ∧
        ∃ worktree, worktrees[index]? = some worktree ∧ selects plan worktree = true := by
  rw [candidates, mem_filter, Bool.and_eq_true, decide_eq_true_eq, Option.any_eq_true, mem_range]
  constructor
  · exact And.right
  intro found
  obtain ⟨worktree, there, _⟩ := found.2
  exact ⟨(List.getElem?_eq_some_iff.1 there).1, found⟩

theorem matchedPositions_nil (done : matchedPositions worktrees [] matched = some positions) :
    matched.all id = true ∧ positions = [] := by
  rw [matchedPositions] at done
  split at done
  · rename_i all
    cases done
    exact ⟨all, rfl⟩
  cases done

/-- The first plan takes the only worktree that it can have. -/
theorem matchedPositions_cons {plan : WorkspaceRepositoryPlan}
    (done : matchedPositions worktrees (plan :: plans) matched = some positions) :
    ∃ taken others, candidates plan worktrees matched = [taken] ∧
      matchedPositions worktrees plans (matched.set taken true) = some others ∧
        positions = taken :: others := by
  rw [matchedPositions] at done
  split at done
  · rename_i taken only
    obtain ⟨others, later, rfl⟩ := Option.map_eq_some_iff.1 done
    exact ⟨taken, others, only, later, rfl⟩
  cases done

section

variable (done : matchedPositions worktrees plans matched = some positions)
include done

theorem selects_of_matched
    {position index : ℕ} {plan : WorkspaceRepositoryPlan} (atPlan : plans[position]? = some plan)
    (atIndex : positions[position]? = some index) :
    matched[index]? = some false ∧ ∃ worktree, worktrees[index]? = some worktree ∧
      selects plan worktree = true ∧
        ∀ earlier ∈ plans.take position, selects earlier worktree = false := by
  induction plans generalizing matched positions position with
  | nil => simp at atPlan
  | cons first rest ih =>
    obtain ⟨taken, others, only, later, rfl⟩ := matchedPositions_cons done
    cases position with
    | zero =>
      simp only [getElem?_cons_zero, Option.some.injEq] at atPlan atIndex
      subst atPlan atIndex
      have own := mem_candidates.1 (only ▸ mem_singleton.2 rfl)
      obtain ⟨free, worktree, there, selected⟩ := own
      exact ⟨free, worktree, there, selected, by simp⟩
    | succ position =>
      rw [getElem?_cons_succ] at atPlan atIndex
      obtain ⟨free, worktree, there, selected, none_earlier⟩ := ih later atPlan atIndex
      have apart : taken ≠ index := by
        intro same
        simp [same, getElem?_set] at free
      rw [getElem?_set_ne apart] at free
      refine ⟨free, worktree, there, selected, fun earlier inside => ?_⟩
      rw [take_succ_cons, mem_cons] at inside
      rcases inside with rfl | inRest
      · rw [← Bool.not_eq_true]
        intro wanted
        have candidate := mem_candidates.2 ⟨free, worktree, there, wanted⟩
        rw [only, mem_singleton] at candidate
        exact apart candidate.symm
      exact none_earlier earlier inRest

theorem exists_position {index : ℕ} (free : matched[index]? = some false) :
    ∃ position : ℕ, positions[position]? = some index := by
  induction plans generalizing matched positions with
  | nil =>
    exact absurd (all_eq_true.1 (matchedPositions_nil done).1 false (mem_of_getElem? free)) (by simp)
  | cons plan rest ih =>
    obtain ⟨taken, others, -, later, rfl⟩ := matchedPositions_cons done
    by_cases here : taken = index
    · exact ⟨0, by rw [getElem?_cons_zero, here]⟩
    obtain ⟨position, found⟩ := ih later (by rw [getElem?_set_ne here, free])
    exact ⟨position + 1, by rw [getElem?_cons_succ, found]⟩

theorem length_positions : positions.length = plans.length := by
  induction plans generalizing matched positions with
  | nil => exact congrArg length (matchedPositions_nil done).2
  | cons plan rest ih =>
    obtain ⟨taken, others, -, later, rfl⟩ := matchedPositions_cons done
    rw [length_cons, length_cons, ih later]

end

/-- The matching gives the worktree to the saved repository at a position. -/
def MatchedTo (plans : List WorkspaceRepositoryPlan) (worktrees : List MaterializedWorktree)
    (position : ℕ) (plan : WorkspaceRepositoryPlan) (worktree : MaterializedWorktree) : Prop :=
  ∃ positions index,
    matchedPositions worktrees plans (List.replicate worktrees.length false) = some positions ∧
      plans[position]? = some plan ∧ positions[position]? = some index ∧
        worktrees[index]? = some worktree

variable {position : ℕ} {plan : WorkspaceRepositoryPlan} {worktree : MaterializedWorktree}

theorem MatchedTo.selects (matchedTo : MatchedTo plans worktrees position plan worktree) :
    selects plan worktree = true ∧
      ∀ earlier ∈ plans.take position, Materialization.selects earlier worktree = false := by
  obtain ⟨positions, index, done, atPlan, atIndex, atWorktree⟩ := matchedTo
  obtain ⟨-, other, there, selected, none_earlier⟩ := selects_of_matched done atPlan atIndex
  cases there.symm.trans atWorktree
  exact ⟨selected, none_earlier⟩

theorem exists_matchedTo (matches_ : materializationMatchesRepositoryPlans plans worktrees = true)
    (inside : worktree ∈ worktrees) : ∃ position plan, MatchedTo plans worktrees position plan worktree := by
  simp only [materializationMatchesRepositoryPlans, Bool.and_eq_true, matchPlans_eq_isSome,
    Option.isSome_iff_exists] at matches_
  obtain ⟨-, positions, done⟩ := matches_
  obtain ⟨index, there⟩ := mem_iff_getElem?.1 inside
  have bound := (List.getElem?_eq_some_iff.1 there).1
  have free : (List.replicate worktrees.length false)[index]? = some false := by
    rw [getElem?_replicate, if_pos bound]
  obtain ⟨position, found⟩ := exists_position done free
  have small : position < plans.length := by
    rw [← length_positions done]
    exact (List.getElem?_eq_some_iff.1 found).1
  exact ⟨position, plans[position], positions, index, done, getElem?_eq_getElem small, found,
    there⟩

theorem eqIgnoreAsciiCase_comm (first second : String) :
    eqIgnoreAsciiCase first second = eqIgnoreAsciiCase second first := by
  simp only [eqIgnoreAsciiCase, eq_comm]

theorem planOf_eq (plans : List WorkspaceRepositoryPlan) (worktree : MaterializedWorktree) :
    planOf plans worktree.repositoryId worktree.label =
      plans.find? fun plan => Materialization.selects plan worktree := by
  rw [planOf]
  congr 1
  funext plan
  rw [Materialization.selects]
  cases plan.repositoryId with
  | none => simp [eqIgnoreAsciiCase_comm]
  | some repositoryId => simp [eq_comm]

theorem find?_eq_some_of_take {α : Type} {test : α → Bool} {items : List α} {position : ℕ} {item : α}
    (there : items[position]? = some item) (passes : test item = true)
    (refused : ∀ earlier ∈ items.take position, test earlier = false) :
    items.find? test = some item := by
  rw [find?_eq_some_iff_getElem]
  obtain ⟨bound, same⟩ := List.getElem?_eq_some_iff.1 there
  refine ⟨passes, position, bound, same, fun earlier before => ?_⟩
  rw [Bool.not_eq_true']
  exact refused _ (mem_take_iff_getElem.2 ⟨earlier, by omega, rfl⟩)

theorem planOf_matched (matchedTo : MatchedTo plans worktrees position plan worktree) :
    planOf plans worktree.repositoryId worktree.label = some plan := by
  obtain ⟨_, _, _, atPlan, _, _⟩ := id matchedTo
  rw [planOf_eq]
  exact find?_eq_some_of_take atPlan matchedTo.selects.1 matchedTo.selects.2

theorem accepts_of_selects (selected : Materialization.selects plan worktree = true) :
    (plan.repositoryId = some worktree.repositoryId ||
      eqIgnoreAsciiCase plan.label worktree.label) = true := by
  rw [Materialization.selects] at selected
  cases identified : plan.repositoryId with
  | none =>
    rw [identified] at selected
    simp only at selected
    simp [eqIgnoreAsciiCase_comm plan.label, selected]
  | some repositoryId =>
    rw [identified] at selected
    simp [of_decide_eq_true selected]

theorem planByIdOrLabel_eq_iff (matchedTo : MatchedTo plans worktrees position plan worktree) :
    planByIdOrLabel plans worktree.repositoryId worktree.label = some plan ↔
      ∀ earlier ∈ plans.take position, eqIgnoreAsciiCase earlier.label worktree.label = false := by
  obtain ⟨selected, none_earlier⟩ := matchedTo.selects
  obtain ⟨_, _, _, atPlan, _, _⟩ := matchedTo
  constructor
  · intro found earlier inside
    by_contra same
    rw [Bool.not_eq_false] at same
    obtain ⟨-, first, bound, own, refused⟩ := find?_eq_some_iff_getElem.1 found
    obtain ⟨index, before, rfl⟩ := mem_take_iff_getElem.1 inside
    -- the repository found is not after the earlier one, so it is no later than the matched one
    have late : first ≤ index := by
      by_contra later
      have failed := refused index (not_le.1 later)
      simp [same] at failed
    have taken : plan ∈ plans.take position :=
      mem_take_iff_getElem.2 ⟨first, by omega, own⟩
    exact nomatch (none_earlier plan taken).symm.trans selected
  intro apart
  refine find?_eq_some_of_take atPlan (accepts_of_selects selected) fun earlier inside => ?_
  have other := none_earlier earlier inside
  rw [Bool.or_eq_false_iff, decide_eq_false_iff_not]
  refine ⟨fun same => ?_, apart earlier inside⟩
  rw [Materialization.selects, same] at other
  simp at other

/-- Every operation on the worktree looks up the given saved repository. -/
structure UsesPlan (view : WorkspaceView) (worktree : MaterializedWorktree)
    (plan : WorkspaceRepositoryPlan) : Prop where
  materialize : ∀ created : CreatedWorktree, created.repositoryId = worktree.repositoryId →
    created.repositoryLabel = worktree.label → trackedRepository view created = some plan
  trusted : gitlabTrustedPlan view worktree = some plan
  comment : reviewCommentPlan view worktree.repositoryId worktree = some plan
  prepared : preparedPlan view worktree.repositoryId worktree = some plan
  published : publishedPlan view worktree.repositoryId worktree = some plan

/-- Every worktree of a matching manifest has its repository, and every operation on it uses that one
exactly if no saved repository before it has the label of the worktree. -/
theorem uses_own_plan_iff (view : WorkspaceView) (worktrees : List MaterializedWorktree)
    (matching : materializationMatchesRepositoryPlans view.repositories worktrees = true) :
    (∀ worktree ∈ worktrees, ∃ position plan,
      MatchedTo view.repositories worktrees position plan worktree) ∧
    ((∀ position plan worktree, MatchedTo view.repositories worktrees position plan worktree →
        UsesPlan view worktree plan) ↔
      ∀ position plan worktree, MatchedTo view.repositories worktrees position plan worktree →
        ∀ earlier ∈ view.repositories.take position,
          eqIgnoreAsciiCase earlier.label worktree.label = false) := by
  refine ⟨fun worktree inside => exists_matchedTo matching inside, ?_, ?_⟩
  · intro uses position plan worktree matchedTo
    exact (planByIdOrLabel_eq_iff matchedTo).1 (uses position plan worktree matchedTo).prepared
  intro apart position plan worktree matchedTo
  have own := planOf_matched matchedTo
  have either := (planByIdOrLabel_eq_iff matchedTo).2 (apart position plan worktree matchedTo)
  refine ⟨fun created sameId sameLabel => ?_, own, own, either, either⟩
  rw [← own, ← sameId, ← sameLabel]
  rfl

def firstId : String :=
  "repo_1111111111111111111111111111111111111111111111111111111111111111"

def secondId : String :=
  "repo_2222222222222222222222222222222222222222222222222222222222222222"

def pinnedPlan (requestId : Uuid) (repositoryId baseRef : String) : WorkspaceRepositoryPlan where
  requestId := requestId
  repositoryId := some repositoryId
  label := "app"
  baseRef := baseRef
  worktreeLeaf := "app"

def pinnedWorktree (repositoryId leaf : String) : MaterializedWorktree where
  repositoryId := repositoryId
  label := "app"
  targetDisplayPath := { absolute := true, components := ["work", "plan", leaf] }
  branchName := "wts/plan"
  baseCommitOid := "0000000000000000000000000000000000000000"
  gitState := none
  activity := none

def pinnedView : WorkspaceView :=
  { sampleView "app" with
    repositories := [pinnedPlan 1 firstId "main", pinnedPlan 2 secondId "release"] }

def pinnedWorktrees : List MaterializedWorktree :=
  [pinnedWorktree firstId "app", pinnedWorktree secondId "app-2"]

theorem pinned_matches :
    materializationMatchesRepositoryPlans pinnedView.repositories pinnedWorktrees = true ∧
      matchedPositions pinnedWorktrees pinnedView.repositories [false, false] = some [0, 1] := by
  decide +kernel

theorem pinned_normal :
    (viewRequest pinnedView).normalize sampleLowercase = .ok (viewRequest pinnedView) := by
  decide +kernel

theorem pinned_prepared :
    (preparedPlan pinnedView secondId (pinnedWorktree secondId "app-2")).map (·.baseRef) =
      some "main" := by
  decide +kernel

theorem pinned_uses_other_base : ¬ ∀ (toLowercase : String → String) (view : WorkspaceView)
        (worktrees : List MaterializedWorktree),
      (viewRequest view).normalize toLowercase = .ok (viewRequest view) →
        materializationMatchesRepositoryPlans view.repositories worktrees = true →
          ∀ position plan worktree, MatchedTo view.repositories worktrees position plan worktree →
            UsesPlan view worktree plan := by
  intro always
  have matchedTo : MatchedTo pinnedView.repositories pinnedWorktrees 1
      (pinnedPlan 2 secondId "release") (pinnedWorktree secondId "app-2") :=
    ⟨[0, 1], 1, pinned_matches.2, rfl, rfl, rfl⟩
  have uses := always sampleLowercase pinnedView pinnedWorktrees pinned_normal pinned_matches.1 1 _ _
    matchedTo
  have found := pinned_prepared
  rw [show preparedPlan pinnedView secondId (pinnedWorktree secondId "app-2") = _ from uses.prepared,
    Option.map_some, Option.some.injEq] at found
  exact absurd found (by decide)

theorem uses_own_plan_iff_pinned : (∀ worktree ∈ pinnedWorktrees, ∃ position plan,
      MatchedTo pinnedView.repositories pinnedWorktrees position plan worktree) ∧
    ((∀ position plan worktree, MatchedTo pinnedView.repositories pinnedWorktrees position plan
        worktree → UsesPlan pinnedView worktree plan) ↔
      ∀ position plan worktree, MatchedTo pinnedView.repositories pinnedWorktrees position plan
        worktree → ∀ earlier ∈ pinnedView.repositories.take position,
          eqIgnoreAsciiCase earlier.label worktree.label = false) :=
  uses_own_plan_iff pinnedView pinnedWorktrees pinned_matches.1

end Wts.ChangeRequests
