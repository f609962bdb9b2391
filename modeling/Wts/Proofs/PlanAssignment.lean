/-
Module: Wts.Proofs.PlanAssignment
Purpose: When the worktrees of a manifest match the saved repositories: every saved repository has a
  worktree of its own, and the loop has no choice.
Trusted boundary: none
Main exports: matches_exact_iff
-/
import Wts.Proofs.WorkspaceCanonical
import Wts.Proofs.WorktreePlans

namespace Wts.Materialization

open List Text Workspace Worktree
open Store (WorkspaceRepositoryPlan)
open ChangeRequests (matchedPositions matchPlans_eq_isSome mem_candidates selects_of_matched
  exists_position length_positions matchedPositions_nil matchedPositions_cons)
open Wts.CodeWorkspace (eqIgnoreAsciiCase)

/-- The worktrees can be arranged so that each saved repository gets one that it selects. -/
def Assignable (plans : List WorkspaceRepositoryPlan) (worktrees : List MaterializedWorktree) : Prop :=
  ∃ arranged, arranged.Perm worktrees ∧
    List.Forall₂ (fun plan worktree => selects plan worktree = true) plans arranged

/-- The saved repository at a position selects the worktree, and none before it is pinned to it. -/
def OpenTo (plans : List WorkspaceRepositoryPlan) (position : ℕ) (plan : WorkspaceRepositoryPlan)
    (worktree : MaterializedWorktree) : Prop :=
  selects plan worktree = true ∧
    ∀ earlier ∈ plans.take position, earlier.repositoryId ≠ some worktree.repositoryId

/-- No repository that is saved without an identifier has two worktrees to choose from. -/
def Unambiguous (plans : List WorkspaceRepositoryPlan) (worktrees : List MaterializedWorktree) : Prop :=
  ∀ position plan, plans[position]? = some plan → plan.repositoryId = none →
    ∀ first ∈ worktrees, ∀ second ∈ worktrees, OpenTo plans position plan first →
      OpenTo plans position plan second → first = second

/-- No two worktrees bear the label of a repository that is saved without an identifier. -/
def SingleLabels (plans : List WorkspaceRepositoryPlan) (worktrees : List MaterializedWorktree) : Prop :=
  ∀ plan ∈ plans, plan.repositoryId = none → ∀ first ∈ worktrees, ∀ second ∈ worktrees,
    selects plan first = true → selects plan second = true → first = second

/-- Repositories whose labels agree up to the case of ASCII letters both have an identifier. -/
def LabelsApart (plans : List WorkspaceRepositoryPlan) : Prop :=
  plans.Pairwise fun first second => eqIgnoreAsciiCase first.label second.label = true →
    first.repositoryId.isSome = true ∧ second.repositoryId.isSome = true

/-- Normalization accepts a request with the repositories. -/
def Accepted (toLowercase : String → String) (plans : List WorkspaceRepositoryPlan) : Prop :=
  ∃ request normalized, CreateWorkspaceRequest.normalize toLowercase request = .ok normalized ∧
    request.repositories = plans.map fun plan =>
      { repositoryId := plan.repositoryId, label := plan.label, baseRef := plan.baseRef }

theorem isWhitespace_toLower (c : Char) : isWhitespace c.toLower = isWhitespace c := by
  rw [← isWhitespace_toUpper, Char.toUpper_toLower_eq_toUpper, isWhitespace_toUpper]

theorem eqIgnoreAsciiCase_trim {first second : String}
    (same : eqIgnoreAsciiCase first second = true) :
    eqIgnoreAsciiCase (trim first) (trim second) = true := by
  have kept : isWhitespace ∘ Char.toLower = isWhitespace := funext isWhitespace_toLower
  have lower : ∀ text : String, (trimChars text.toList).map Char.toLower =
      trimChars (text.toList.map Char.toLower) := by
    intro text
    simp only [trimChars, List.rdropWhile, dropWhile_map, kept, ← map_reverse]
  simp only [eqIgnoreAsciiCase, CodeWorkspace.toAsciiLowercase, decide_eq_true_eq, String.ofList_inj,
    trim, String.toList_ofList] at same ⊢
  rw [lower, lower, same]

theorem Accepted.labelsApart {toLowercase : String → String} {plans : List WorkspaceRepositoryPlan}
    (lower : RespectsAsciiCase toLowercase) (accepted : Accepted toLowercase plans) :
    LabelsApart plans := by
  obtain ⟨request, normalized, isOk, own⟩ := accepted
  have valid := ((normalize_eq_ok_iff toLowercase).1 isOk).2.2.2.1.apart
  rw [own, map_map, pairwise_map] at valid
  exact valid.imp fun apart same => apart.labels (lower _ _ (eqIgnoreAsciiCase_trim same))

theorem LabelsApart.perm {plans others : List WorkspaceRepositoryPlan} (apart : LabelsApart plans)
    (same : others.Perm plans) : LabelsApart others := by
  refine same.symm.pairwise apart fun {first second} both agree => (both ?_).symm
  simp only [eqIgnoreAsciiCase, decide_eq_true_eq] at agree ⊢
  exact agree.symm

/-- Two repositories without identifiers do not select one worktree. -/
theorem LabelsApart.position_eq {plans : List WorkspaceRepositoryPlan} (apart : LabelsApart plans)
    {first second : ℕ} {one other : WorkspaceRepositoryPlan} (atFirst : plans[first]? = some one)
    (atSecond : plans[second]? = some other) (unpinned : one.repositoryId = none)
    (otherUnpinned : other.repositoryId = none) {worktree : MaterializedWorktree}
    (selected : selects one worktree = true) (otherSelected : selects other worktree = true) :
    first = second := by
  obtain ⟨bound, rfl⟩ := List.getElem?_eq_some_iff.1 atFirst
  obtain ⟨otherBound, rfl⟩ := List.getElem?_eq_some_iff.1 atSecond
  simp only [selects, unpinned] at selected
  simp only [selects, otherUnpinned] at otherSelected
  simp only [eqIgnoreAsciiCase, decide_eq_true_eq] at selected otherSelected
  have ordered := pairwise_iff_getElem.1 apart
  rcases lt_trichotomy first second with before | same | after
  · have pinned := (ordered first second bound otherBound before
      (decide_eq_true (selected.symm.trans otherSelected))).1
    rw [unpinned] at pinned
    cases pinned
  · exact same
  have pinned := (ordered second first otherBound bound after
    (decide_eq_true (otherSelected.symm.trans selected))).1
  rw [otherUnpinned] at pinned
  cases pinned

section Found

variable {plans : List WorkspaceRepositoryPlan} {worktrees : List MaterializedWorktree}
  {matched : List Bool} {positions : List ℕ}

theorem forall₂_filterMap (done : matchedPositions worktrees plans matched = some positions) :
    List.Forall₂ (fun plan worktree => selects plan worktree = true) plans
      (positions.filterMap (worktrees[·]?)) := by
  induction plans generalizing matched positions with
  | nil =>
    rw [(matchedPositions_nil done).2]
    exact .nil
  | cons plan rest ih =>
    obtain ⟨taken, others, only, later, rfl⟩ := matchedPositions_cons done
    obtain ⟨-, worktree, there, selected⟩ :=
      mem_candidates.1 (only ▸ mem_singleton.2 rfl : taken ∈ candidates plan worktrees matched)
    rw [filterMap_cons_some there]
    exact .cons selected (ih later)

theorem filterMap_range (worktrees : List MaterializedWorktree) :
    (List.range worktrees.length).filterMap (worktrees[·]?) = worktrees := by
  induction worktrees with
  | nil => rfl
  | cons worktree rest ih =>
    rw [length_cons, range_succ_eq_map, filterMap_cons_some getElem?_cons_zero, filterMap_map]
    congr 1

theorem positions_perm (size : plans.length = worktrees.length)
    (done : matchedPositions worktrees plans (List.replicate worktrees.length false) =
      some positions) : positions.Perm (List.range worktrees.length) := by
  have all : List.range worktrees.length ⊆ positions := by
    intro index inside
    have free : (List.replicate worktrees.length false)[index]? = some false := by
      rw [getElem?_replicate, if_pos (mem_range.1 inside)]
    obtain ⟨position, found⟩ := exists_position done free
    exact mem_of_getElem? found
  refine ((nodup_range.subperm all).perm_of_length_le ?_).symm
  rw [length_positions done, size, length_range]

end Found

section Pool

variable {plans before rest : List WorkspaceRepositoryPlan} {plan : WorkspaceRepositoryPlan}
  {worktrees done later : List MaterializedWorktree} {worktree : MaterializedWorktree}
  {matched : List Bool}

/-- The worktrees that are still free. -/
structure Pool (worktrees : List MaterializedWorktree) (matched : List Bool)
    (pool : List MaterializedWorktree) : Prop where
  size : matched.length = worktrees.length
  free : ∀ index : ℕ, matched[index]? = some false ↔
    ∃ worktree ∈ pool, worktrees[index]? = some worktree

section

variable (distinct : (worktrees.map MaterializedWorktree.repositoryId).Nodup)
include distinct

theorem eq_of_repositoryId
    {first second : MaterializedWorktree} (inside : first ∈ worktrees) (other : second ∈ worktrees)
    (same : first.repositoryId = second.repositoryId) : first = second :=
  inj_on_of_nodup_map distinct inside other same

/-- Of the worktrees that are left, the repository at hand selects only its own. -/
theorem eq_of_selects (unambiguous : Unambiguous (before ++ plan :: rest) worktrees)
    (arranged : (done ++ worktree :: later).Perm worktrees)
    (taken : List.Forall₂ (fun plan worktree => selects plan worktree = true) before done)
    (own : selects plan worktree = true) {other : MaterializedWorktree}
    (left : other ∈ worktree :: later) (selected : selects plan other = true) :
    other = worktree := by
  have inside : ∀ one ∈ done ++ worktree :: later, one ∈ worktrees := fun one => arranged.mem_iff.1
  have apart : (done ++ worktree :: later).Nodup := arranged.nodup_iff.2 (.of_map _ distinct)
  cases pinned : plan.repositoryId with
  | some repositoryId =>
    simp only [selects, pinned, decide_eq_true_eq] at own selected
    exact eq_of_repositoryId distinct (inside _ (mem_append_right _ left))
      (inside _ (by simp)) (selected.trans own.symm)
  | none =>
    -- an earlier repository that is pinned to one of them has taken that one
    have opened : ∀ one ∈ worktree :: later, selects plan one = true →
        OpenTo (before ++ plan :: rest) before.length plan one := by
      intro one among selectedOne
      refine ⟨selectedOne, fun earlier inBefore same => ?_⟩
      rw [take_left] at inBefore
      obtain ⟨took, paired, fits⟩ := Traverse.forall₂_mem_left taken inBefore
      have inDone := (of_mem_zip paired).2
      simp only [selects, same, decide_eq_true_eq] at fits
      have equal := eq_of_repositoryId distinct (inside _ (mem_append_left _ inDone))
        (inside _ (mem_append_right _ among)) fits
      exact (nodup_append.1 apart).2.2 took inDone one among equal
    exact unambiguous before.length plan (by simp) pinned other
      (inside _ (mem_append_right _ left)) worktree (inside _ (by simp))
      (opened other left selected) (opened worktree mem_cons_self own)

theorem matchPlans_of_pool (unambiguous : Unambiguous (before ++ rest) worktrees)
    (arranged : (done ++ later).Perm worktrees)
    (taken : List.Forall₂ (fun plan worktree => selects plan worktree = true) before done)
    (fits : List.Forall₂ (fun plan worktree => selects plan worktree = true) rest later)
    (pool : Pool worktrees matched later) : matchPlans worktrees rest matched = true := by
  induction fits generalizing before done matched with
  | nil =>
    rw [matchPlans, all_eq_true]
    intro flag inside
    obtain ⟨index, there⟩ := mem_iff_getElem?.1 inside
    cases flag with
    | true => rfl
    | false =>
      obtain ⟨worktree, none_, _⟩ := (pool.free index).1 there
      exact absurd none_ not_mem_nil
  | @cons plan worktree rest later own fits ih =>
    have nodup : worktrees.Nodup := .of_map _ distinct
    have apart : (done ++ worktree :: later).Nodup := arranged.nodup_iff.2 nodup
    obtain ⟨index, there⟩ := mem_iff_getElem?.1
      (arranged.mem_iff.1 (mem_append_right done (mem_cons_self : worktree ∈ worktree :: later)))
    have only : candidates plan worktrees matched = [index] := by
      have single : (candidates plan worktrees matched).Nodup := nodup_range.filter _
      refine perm_singleton.1 ((perm_ext_iff_of_nodup single (nodup_singleton _)).2 ?_)
      intro other
      rw [mem_candidates, pool.free, mem_singleton]
      constructor
      · rintro ⟨⟨one, left, atOther⟩, selectedOne, again, selected⟩
        cases atOther.symm.trans again
        cases eq_of_selects distinct unambiguous arranged taken own left selected
        exact (getElem?_inj (List.getElem?_eq_some_iff.1 atOther).1 nodup).1
          (atOther.trans there.symm)
      rintro rfl
      exact ⟨⟨worktree, mem_cons_self, there⟩, worktree, there, own⟩
    rw [matchPlans, only]
    have split : before ++ plan :: rest = (before ++ [plan]) ++ rest := by simp
    have moved : done ++ worktree :: later = (done ++ [worktree]) ++ later := by simp
    apply ih (split ▸ unambiguous) (moved ▸ arranged) (rel_append taken (.cons own .nil))
    constructor
    · rw [length_set, pool.size]
    intro other
    have fresh : worktree ∉ later := (nodup_cons.1 (nodup_append.1 apart).2.1).1
    by_cases same : index = other
    · subst same
      simp only [getElem?_set_self', there, Option.some.injEq]
      constructor
      · intro gone
        cases known : matched[index]? with
        | none => simp [known] at gone
        | some _ => simp [known] at gone
      rintro ⟨one, inLater, equal⟩
      exact absurd (equal ▸ inLater) fresh
    rw [getElem?_set_ne same, pool.free]
    constructor
    · rintro ⟨one, left, atOther⟩
      rcases mem_cons.1 left with rfl | inLater
      · exact absurd ((getElem?_inj (List.getElem?_eq_some_iff.1 there).1 nodup).1
          (there.trans atOther.symm)) same
      exact ⟨one, inLater, atOther⟩
    rintro ⟨one, inLater, atOther⟩
    exact ⟨one, mem_cons_of_mem _ inLater, atOther⟩

end

end Pool

/-! ### The answer -/

section Answer

variable {plans : List WorkspaceRepositoryPlan} {worktrees : List MaterializedWorktree}

theorem assignable_of_matches
    (matching : materializationMatchesRepositoryPlans plans worktrees = true) :
    Assignable plans worktrees := by
  simp only [materializationMatchesRepositoryPlans, Bool.and_eq_true, matchPlans_eq_isSome,
    Option.isSome_iff_exists, decide_eq_true_eq] at matching
  obtain ⟨⟨size, -⟩, positions, done⟩ := matching
  refine ⟨_, ?_, forall₂_filterMap done⟩
  have arranged := (positions_perm size done).filterMap (worktrees[·]?)
  rwa [filterMap_range] at arranged

theorem unambiguous_of_matches (apart : LabelsApart plans)
    (matching : materializationMatchesRepositoryPlans plans worktrees = true) :
    Unambiguous plans worktrees := by
  simp only [materializationMatchesRepositoryPlans, Bool.and_eq_true, matchPlans_eq_isSome,
    Option.isSome_iff_exists, decide_eq_true_eq] at matching
  obtain ⟨-, positions, done⟩ := matching
  have own : ∀ position plan worktree, plans[position]? = some plan → plan.repositoryId = none →
      worktree ∈ worktrees → OpenTo plans position plan worktree →
        positions[position]?.bind (worktrees[·]?) = some worktree := by
    intro position plan worktree atPlan unpinned inside isOpen
    obtain ⟨index, there⟩ := mem_iff_getElem?.1 inside
    have free : (List.replicate worktrees.length false)[index]? = some false := by
      rw [getElem?_replicate, if_pos (List.getElem?_eq_some_iff.1 there).1]
    obtain ⟨taker, found⟩ := exists_position done free
    have inPlans : taker < plans.length := by
      rw [← length_positions done]
      exact (List.getElem?_eq_some_iff.1 found).1
    have atTaker := getElem?_eq_getElem inPlans
    obtain ⟨-, one, again, selected, refused⟩ := selects_of_matched done atTaker found
    cases again.symm.trans there
    rcases lt_trichotomy taker position with before | rfl | after
    · have member : plans[taker] ∈ plans.take position :=
        mem_take_iff_getElem.2 ⟨taker, by omega, rfl⟩
      cases pinned : plans[taker].repositoryId with
      | none =>
        exact absurd (apart.position_eq atTaker atPlan pinned unpinned selected isOpen.1) before.ne
      | some repositoryId =>
        simp only [selects, pinned, decide_eq_true_eq] at selected
        exact absurd (selected ▸ pinned) (isOpen.2 _ member)
    · rw [found, Option.bind_some, there]
    have inPlan := List.getElem?_eq_some_iff.1 atPlan
    have member : plan ∈ plans.take taker :=
      mem_take_iff_getElem.2 ⟨position, by omega, inPlan.2⟩
    exact absurd isOpen.1 (by rw [refused plan member]; exact Bool.false_ne_true)
  intro position plan atPlan unpinned first inside second otherInside isOpen otherOpen
  exact Option.some.inj ((own position plan first atPlan unpinned inside isOpen).symm.trans
    (own position plan second atPlan unpinned otherInside otherOpen))

theorem matches_of_assignable (distinct : (worktrees.map MaterializedWorktree.repositoryId).Nodup)
    (assignable : Assignable plans worktrees) (unambiguous : Unambiguous plans worktrees) :
    materializationMatchesRepositoryPlans plans worktrees = true := by
  obtain ⟨arranged, perm, fits⟩ := assignable
  have size : plans.length = worktrees.length := fits.length_eq.trans perm.length_eq
  have pool : Pool worktrees (List.replicate worktrees.length false) arranged := by
    constructor
    · rw [length_replicate]
    intro index
    rw [getElem?_replicate]
    constructor
    · intro free
      have bound : index < worktrees.length := by
        by_contra outside
        simp [outside] at free
      exact ⟨worktrees[index], perm.mem_iff.2 (getElem_mem bound), getElem?_eq_getElem bound⟩
    rintro ⟨worktree, -, there⟩
    rw [if_pos (List.getElem?_eq_some_iff.1 there).1]
  simp only [materializationMatchesRepositoryPlans, Bool.and_eq_true, decide_eq_true_eq]
  have whole : Unambiguous ([] ++ plans) worktrees := unambiguous
  have all : ([] ++ arranged).Perm worktrees := perm
  exact ⟨⟨size, distinct⟩, matchPlans_of_pool distinct whole all .nil fits pool⟩

theorem matches_iff_assignable (apart : LabelsApart plans)
    (distinct : (worktrees.map MaterializedWorktree.repositoryId).Nodup) :
    materializationMatchesRepositoryPlans plans worktrees = true ↔
      Assignable plans worktrees ∧ Unambiguous plans worktrees :=
  ⟨fun matching => ⟨assignable_of_matches matching, unambiguous_of_matches apart matching⟩,
    fun both => matches_of_assignable distinct both.1 both.2⟩

theorem Assignable.perm {others : List WorkspaceRepositoryPlan} (assignable : Assignable plans worktrees)
    (same : others.Perm plans) : Assignable others worktrees := by
  obtain ⟨arranged, perm, fits⟩ := assignable
  obtain ⟨other, otherFits, again⟩ := perm_comp_forall₂ same fits
  exact ⟨other, again.trans perm, otherFits⟩

/-- Each saved repository gets one worktree, so there are as many of both. -/
theorem Assignable.length_eq (assignable : Assignable plans worktrees) :
    plans.length = worktrees.length := by
  obtain ⟨arranged, perm, fits⟩ := assignable
  exact fits.length_eq.trans perm.length_eq

/-- An assignment does not depend on the order of the worktrees. -/
theorem Assignable.perm_worktrees {others : List MaterializedWorktree} (assignable : Assignable plans others)
    (same : others.Perm worktrees) : Assignable plans worktrees := by
  obtain ⟨arranged, perm, fits⟩ := assignable
  exact ⟨arranged, perm.trans same, fits⟩

/-- Without two worktrees of one label the loop has no choice, in any order of the repositories. -/
theorem SingleLabels.unambiguous (single : SingleLabels plans worktrees)
    {choice : List WorkspaceRepositoryPlan} (perm : choice.Perm plans) : Unambiguous choice worktrees := by
  intro position plan atPlan unpinned first inside second otherInside isOpen otherOpen
  have member := perm.mem_iff.1 (mem_of_getElem? atPlan)
  exact single plan member unpinned first inside second otherInside isOpen.1 otherOpen.1

theorem SingleLabels.perm_worktrees {others : List MaterializedWorktree} (single : SingleLabels plans worktrees)
    (same : others.Perm worktrees) : SingleLabels plans others := by
  intro plan member unpinned first inside second otherInside
  exact single plan member unpinned first (same.mem_iff.1 inside) second (same.mem_iff.1 otherInside)

/-- The worktrees match exactly if they can be assigned and the loop has no choice, so their order does
not matter; that of the repositories does not either if no two worktrees have a label of a repository
without an identifier. -/
theorem matches_iff_unambiguous {toLowercase : String → String} (lower : RespectsAsciiCase toLowercase)
    (accepted : Accepted toLowercase plans)
    (distinct : (worktrees.map MaterializedWorktree.repositoryId).Nodup) :
    (materializationMatchesRepositoryPlans plans worktrees = true ↔
      plans.length = worktrees.length ∧ Assignable plans worktrees ∧ Unambiguous plans worktrees) ∧
    (∀ others : List MaterializedWorktree, others.Perm worktrees →
      materializationMatchesRepositoryPlans plans others =
        materializationMatchesRepositoryPlans plans worktrees) ∧
    ((∀ plan ∈ plans, plan.repositoryId = none → ∀ first ∈ worktrees, ∀ second ∈ worktrees,
        selects plan first = true → selects plan second = true → first = second) →
      ∀ others : List WorkspaceRepositoryPlan, others.Perm plans →
        materializationMatchesRepositoryPlans others worktrees =
          materializationMatchesRepositoryPlans plans worktrees) := by
  have apart := accepted.labelsApart lower
  refine ⟨?_, ?_, ?_⟩
  · rw [matches_iff_assignable apart distinct]
    exact ⟨fun both => ⟨both.1.length_eq, both⟩, And.right⟩
  · intro others same
    have otherDistinct : (others.map MaterializedWorktree.repositoryId).Nodup :=
      (same.map _).nodup_iff.2 distinct
    rw [Bool.eq_iff_iff, matches_iff_assignable apart distinct,
      matches_iff_assignable apart otherDistinct]
    simp only [Assignable, Unambiguous, same.mem_iff]
    refine and_congr_left fun _ => exists_congr fun arranged => and_congr_left fun _ => ?_
    exact ⟨fun perm => perm.trans same, fun perm => perm.trans same.symm⟩
  · intro single others same
    have labels : SingleLabels plans worktrees := single
    rw [Bool.eq_iff_iff, matches_iff_assignable (apart.perm same) distinct,
      matches_iff_assignable apart distinct]
    constructor
    · exact fun both => ⟨both.1.perm same.symm, labels.unambiguous (.refl _)⟩
    · exact fun both => ⟨both.1.perm same, labels.unambiguous same⟩

/-- The answer is the existence of an assignment exactly if the loop has no choice whenever there is one.
It is so in every order of both lists exactly if no two worktrees bear the label of a repository without
an identifier whenever there is an assignment. -/
theorem matches_exact_iff {toLowercase : String → String} (lower : RespectsAsciiCase toLowercase)
    (accepted : Accepted toLowercase plans)
    (distinct : (worktrees.map MaterializedWorktree.repositoryId).Nodup) :
    ((materializationMatchesRepositoryPlans plans worktrees = true ↔
        plans.length = worktrees.length ∧ Assignable plans worktrees) ↔
      (Assignable plans worktrees → Unambiguous plans worktrees)) ∧
    (((materializationMatchesRepositoryPlans plans worktrees = true ↔
          plans.length = worktrees.length ∧ Assignable plans worktrees) ∧
        ∀ others : List WorkspaceRepositoryPlan, others.Perm plans →
          ∀ arranged : List MaterializedWorktree, arranged.Perm worktrees →
            materializationMatchesRepositoryPlans others arranged =
              materializationMatchesRepositoryPlans plans worktrees) ↔
      (Assignable plans worktrees → SingleLabels plans worktrees)) := by
  have apart := accepted.labelsApart lower
  have exactHere : (materializationMatchesRepositoryPlans plans worktrees = true ↔
      plans.length = worktrees.length ∧ Assignable plans worktrees) ↔
        (Assignable plans worktrees → Unambiguous plans worktrees) := by
    rw [matches_iff_assignable apart distinct]
    exact ⟨fun exactly assignable => (exactly.2 ⟨assignable.length_eq, assignable⟩).2,
      fun noChoice => ⟨fun both => ⟨both.1.length_eq, both.1⟩, fun both => ⟨both.2, noChoice both.2⟩⟩⟩
  refine ⟨exactHere, ?_, fun single => ?_⟩
  · rintro ⟨exactly, anyOrder⟩ assignable plan member unpinned
    -- The order that puts the repository first leaves it every worktree of its label.
    have first := perm_cons_erase member
    have matching : materializationMatchesRepositoryPlans (plan :: plans.erase plan) worktrees = true := by
      rw [anyOrder _ first.symm _ (.refl _)]
      exact exactly.2 ⟨assignable.length_eq, assignable⟩
    intro one inside other otherInside selected otherSelected
    exact unambiguous_of_matches (apart.perm first.symm) matching 0 plan rfl unpinned one inside other
      otherInside ⟨selected, by simp⟩ ⟨otherSelected, by simp⟩
  refine ⟨exactHere.2 fun assignable => (single assignable).unambiguous (.refl _), ?_⟩
  intro others same arranged sameTrees
  obtain ⟨-, anyTrees, -⟩ := matches_iff_unambiguous lower accepted distinct
  have distinctArranged : (arranged.map MaterializedWorktree.repositoryId).Nodup :=
    (sameTrees.map _).nodup_iff.2 distinct
  rw [← anyTrees arranged sameTrees, Bool.eq_iff_iff,
    matches_iff_assignable (apart.perm same) distinctArranged,
    matches_iff_assignable apart distinctArranged]
  constructor
  · rintro ⟨assignable, -⟩
    have back := assignable.perm same.symm
    exact ⟨back, ((single (back.perm_worktrees sameTrees)).perm_worktrees sameTrees).unambiguous (.refl _)⟩
  · rintro ⟨assignable, -⟩
    exact ⟨assignable.perm same,
      ((single (assignable.perm_worktrees sameTrees)).perm_worktrees sameTrees).unambiguous same⟩

end Answer

open ChangeRequests (firstId secondId pinnedPlan pinnedView pinnedWorktree pinnedWorktrees)

def unpinnedPlan : WorkspaceRepositoryPlan :=
  { pinnedPlan 1 firstId "main" with repositoryId := none }

def libraryPlan : WorkspaceRepositoryPlan :=
  { pinnedPlan 2 secondId "main" with label := "lib" }

def mixedView : Store.WorkspaceView :=
  { pinnedView with repositories := [unpinnedPlan, libraryPlan] }

theorem mixed_accepted : Accepted sampleLowercase [unpinnedPlan, libraryPlan] :=
  ⟨viewRequest mixedView, viewRequest mixedView, by decide +kernel, rfl⟩

/-- The exact condition at a receipt with two worktrees of one label, where the answer depends on the
order of the repositories. -/
theorem matches_exact_iff_mixed :
    ((materializationMatchesRepositoryPlans [unpinnedPlan, libraryPlan] pinnedWorktrees = true ↔
        [unpinnedPlan, libraryPlan].length = pinnedWorktrees.length ∧
          Assignable [unpinnedPlan, libraryPlan] pinnedWorktrees) ↔
      (Assignable [unpinnedPlan, libraryPlan] pinnedWorktrees →
        Unambiguous [unpinnedPlan, libraryPlan] pinnedWorktrees)) ∧
    materializationMatchesRepositoryPlans [unpinnedPlan, libraryPlan] pinnedWorktrees = false ∧
    materializationMatchesRepositoryPlans [libraryPlan, unpinnedPlan] pinnedWorktrees = true :=
  ⟨(matches_exact_iff sampleLowercase_respects mixed_accepted (by decide)).1, by decide, by decide⟩

theorem assignable_not_matching :
    ¬ ∀ (toLowercase : String → String) (plans : List WorkspaceRepositoryPlan)
        (worktrees : List MaterializedWorktree),
      RespectsAsciiCase toLowercase → Accepted toLowercase plans →
        (worktrees.map MaterializedWorktree.repositoryId).Nodup →
          (materializationMatchesRepositoryPlans plans worktrees = true ↔
            plans.length = worktrees.length ∧ Assignable plans worktrees) := by
  intro always
  have exactly := always sampleLowercase [unpinnedPlan, libraryPlan] pinnedWorktrees
    sampleLowercase_respects mixed_accepted (by decide)
  have matching := exactly.2 ⟨rfl, pinnedWorktrees, .refl _, .cons (by decide) (.cons (by decide) .nil)⟩
  exact absurd matching (by decide)

end Wts.Materialization
