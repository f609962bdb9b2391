/-
Module: Wts.Proofs.CompatibilityOrder
Purpose: When the result of the solver depends on the order of its input.
Trusted boundary: none
Main exports: orderIndependent_iff
-/
import Wts.Proofs.Compatibility
import Wts.Library.SortDedup
import Wts.Library.Traverse

namespace Wts.Compatibility

open Text BestChoice List

/-! ### Problems in another order -/

/-- One candidate with its evidence in any order. -/
structure CommitCandidate.Same (first second : CommitCandidate) : Prop where
  repository : first.repository = second.repository
  baseRef : first.baseRef = second.baseRef
  commit : first.commit = second.commit
  evidenceScore : first.evidenceScore = second.evidenceScore
  evidence : first.evidence.Perm second.evidence

/-- The pair with its sides exchanged. -/
def CompatiblePair.flipped (pair : CompatiblePair) : CompatiblePair where
  leftRepository := pair.rightRepository
  leftCommit := pair.rightCommit
  rightRepository := pair.leftRepository
  rightCommit := pair.leftCommit
  evidence := pair.evidence

/-- The same problem: every list may be in another order, the evidence of a candidate too, and a pair
may be turned around. -/
structure SameUpToOrder (first second : CompatibilityProblem) : Prop where
  required : first.requiredRepositories.Perm second.requiredRepositories
  candidates : ∃ middle, first.candidates.Perm middle ∧
    List.Forall₂ CommitCandidate.Same middle second.candidates
  pairs : ∃ middle, first.compatiblePairs.Perm middle ∧
    List.Forall₂ (fun pair other => other = pair ∨ other = pair.flipped) middle
      second.compatiblePairs

/-- Every order of the problem has the same result. -/
def OrderIndependent (problem : CompatibilityProblem) : Prop :=
  ∀ other, SameUpToOrder problem other →
    solveCompatibilityVector other = solveCompatibilityVector problem

theorem CommitCandidate.Same.refl (candidate : CommitCandidate) : candidate.Same candidate :=
  ⟨rfl, rfl, rfl, rfl, .refl _⟩

theorem CommitCandidate.Same.symm {first second : CommitCandidate} (same : first.Same second) :
    second.Same first :=
  ⟨same.repository.symm, same.baseRef.symm, same.commit.symm, same.evidenceScore.symm,
    same.evidence.symm⟩

theorem CommitCandidate.Same.canonical {first second : CommitCandidate} (same : first.Same second) :
    first.canonical = second.canonical := by
  obtain ⟨repository, baseRef, commit, score, evidence⟩ := same
  rw [CommitCandidate.canonical, CommitCandidate.canonical, sortDedup, sortDedup,
    StableSort.insertionSort_eq_of_perm evidence, repository, baseRef, commit, score]

theorem flipped_flipped (pair : CompatiblePair) : pair.flipped.flipped = pair := rfl

variable {first second problem : CompatibilityProblem}

theorem SameUpToOrder.symm (same : SameUpToOrder first second) : SameUpToOrder second first := by
  obtain ⟨required, ⟨candidates, permuted, each⟩, pairs, permutedPairs, eachPair⟩ := same
  refine ⟨required.symm, ?_, ?_⟩
  · have both : Relation.Comp (List.Forall₂ CommitCandidate.Same) List.Perm second.candidates
        first.candidates :=
      ⟨candidates, each.flip.imp fun _ _ same => same.symm, permuted.symm⟩
    rwa [forall₂_comp_perm_eq_perm_comp_forall₂] at both
  have both : Relation.Comp
      (List.Forall₂ fun pair other : CompatiblePair => other = pair ∨ other = pair.flipped)
      List.Perm second.compatiblePairs first.compatiblePairs := by
    refine ⟨pairs, eachPair.flip.imp fun pair other turned => ?_, permutedPairs.symm⟩
    rcases turned with same | turned
    · exact .inl same.symm
    exact .inr (by rw [turned, flipped_flipped])
  rwa [forall₂_comp_perm_eq_perm_comp_forall₂] at both

theorem SameUpToOrder.of_perm (problem : CompatibilityProblem) {candidates : List CommitCandidate}
    (permuted : problem.candidates.Perm candidates) :
    SameUpToOrder problem { problem with candidates := candidates } where
  required := .refl _
  candidates := ⟨candidates, permuted, forall₂_same.2 fun candidate _ => .refl candidate⟩
  pairs := ⟨_, .refl _, forall₂_same.2 fun _ _ => .inl rfl⟩

section Transfer

variable {first second : CompatibilityProblem} (same : SameUpToOrder first second)

include same

theorem SameUpToOrder.ordered_eq : first.ordered = second.ordered :=
  StableSort.insertionSort_eq_of_perm same.required

theorem SameUpToOrder.exists_candidate {candidate : CommitCandidate}
    (listed : candidate ∈ first.candidates) :
    ∃ other ∈ second.candidates, candidate.Same other := by
  obtain ⟨middle, permuted, each⟩ := same.candidates
  obtain ⟨other, zipped, related⟩ :=
    Traverse.forall₂_mem_left each (permuted.mem_iff.1 listed)
  exact ⟨other, (of_mem_zip zipped).2, related⟩

theorem SameUpToOrder.exists_pair {pair : CompatiblePair} (listed : pair ∈ first.compatiblePairs) :
    ∃ other ∈ second.compatiblePairs, other = pair ∨ other = pair.flipped := by
  obtain ⟨middle, permuted, each⟩ := same.pairs
  obtain ⟨other, zipped, related⟩ :=
    Traverse.forall₂_mem_left each (permuted.mem_iff.1 listed)
  exact ⟨other, (of_mem_zip zipped).2, related⟩

end Transfer

theorem SameUpToOrder.compatible (same : SameUpToOrder first second) {left right : CommitCandidate}
    (compatible : Compatible first.compatiblePairs left right) :
    Compatible second.compatiblePairs left right := by
  intro ⟨pair, inside, relates⟩
  obtain ⟨origin, listed, turned⟩ := same.symm.exists_pair inside
  have about : origin.Relates left.repository right.repository := by
    rcases turned with rfl | rfl
    · exact relates
    exact relates.symm.imp And.symm And.symm
  obtain ⟨found, foundListed, lists⟩ := compatible ⟨origin, listed, about⟩
  obtain ⟨image, imageInside, imageTurned⟩ := same.exists_pair foundListed
  refine ⟨image, imageInside, ?_⟩
  rcases imageTurned with rfl | rfl
  · exact lists
  rcases lists with ⟨leftRepository, leftCommit, rightRepository, rightCommit⟩ |
    ⟨leftRepository, leftCommit, rightRepository, rightCommit⟩
  · exact .inr ⟨rightRepository, rightCommit, leftRepository, leftCommit⟩
  exact .inl ⟨rightRepository, rightCommit, leftRepository, leftCommit⟩

/-- A best choice that takes the least base of equal candidates. -/
structure IsBestWithBase (problem : CompatibilityProblem) (pick : String → CommitCandidate) : Prop
    extends IsBest problem pick where
  base : ∀ repository ∈ problem.requiredRepositories, ∀ other ∈ problem.candidates,
    other.repository = repository → other.evidenceScore = (pick repository).evidenceScore →
      other.commit = (pick repository).commit → (pick repository).baseRef ≤ other.baseRef

section Choices

variable {first second : CompatibilityProblem} (same : SameUpToOrder first second)

include same

variable {pick : String → CommitCandidate}

theorem IsChoice.transfer (choice : IsChoice first pick) : ∃ image, IsChoice second image ∧
      ∀ repository ∈ first.requiredRepositories, (pick repository).Same (image repository) := by
  have each : ∀ repository, ∃ other, repository ∈ first.requiredRepositories →
      other ∈ second.candidates ∧ (pick repository).Same other := by
    intro repository
    by_cases required : repository ∈ first.requiredRepositories
    · obtain ⟨other, listed, related⟩ :=
        same.exists_candidate (choice.candidate repository required)
      exact ⟨other, fun _ => ⟨listed, related⟩⟩
    exact ⟨pick repository, fun inside => absurd inside required⟩
  choose image related using each
  have back : ∀ repository ∈ second.requiredRepositories,
      repository ∈ first.requiredRepositories := fun repository => same.required.mem_iff.2
  refine ⟨image, ⟨?_, ?_, ?_⟩, fun repository required => (related repository required).2⟩
  · exact fun repository required => (related repository (back repository required)).1
  · intro repository required
    rw [← (related repository (back repository required)).2.repository]
    exact choice.repository repository (back repository required)
  intro left inLeft right inRight apart
  have leftSame := (related left (back left inLeft)).2
  have rightSame := (related right (back right inRight)).2
  have compatible := choice.compatible left (back left inLeft) right (back right inRight) apart
  exact (same.compatible compatible).congr leftSame.repository.symm leftSame.commit.symm
    rightSame.repository.symm rightSame.commit.symm

variable {image : String → CommitCandidate}

theorem totalScore_transfer
    (related : ∀ repository ∈ first.requiredRepositories, (pick repository).Same (image repository)) :
    totalScore second image = totalScore first pick := by
  rw [totalScore_eq, totalScore_eq, same.ordered_eq.symm]
  refine congrArg List.sum (map_congr_left fun repository required => ?_)
  rw [(related repository (mem_ordered.1 required)).evidenceScore]

theorem commitList_transfer
    (related : ∀ repository ∈ first.requiredRepositories, (pick repository).Same (image repository)) :
    commitList second image = commitList first pick := by
  rw [commitList, commitList, same.ordered_eq.symm]
  refine map_congr_left fun repository required => ?_
  rw [(related repository (mem_ordered.1 required)).commit]

theorem IsBestWithBase.transfer (best : IsBestWithBase first pick) :
    ∃ image, IsBestWithBase second image ∧
      ∀ repository ∈ first.requiredRepositories, (pick repository).Same (image repository) := by
  obtain ⟨image, choice, related⟩ := IsChoice.transfer same best.toIsChoice
  have score := totalScore_transfer same related
  have commits := commitList_transfer same related
  refine ⟨image, { choice with highest := ?_, least := ?_, base := ?_ }, related⟩
  · intro other chosen
    obtain ⟨back, chosenBack, relatedBack⟩ := IsChoice.transfer same.symm chosen
    rw [score, ← totalScore_transfer same.symm relatedBack]
    exact best.highest back chosenBack
  · intro other chosen equal
    obtain ⟨back, chosenBack, relatedBack⟩ := IsChoice.transfer same.symm chosen
    rw [commits, ← commitList_transfer same.symm relatedBack]
    refine best.least back chosenBack ?_
    rw [totalScore_transfer same.symm relatedBack, equal, score]
  intro repository required other listed named otherScore otherCommit
  have here := related repository (same.required.mem_iff.2 required)
  obtain ⟨origin, inside, originSame⟩ := same.symm.exists_candidate listed
  rw [← here.baseRef, originSame.baseRef]
  refine best.base repository (same.required.mem_iff.2 required) origin inside ?_ ?_ ?_
  · rw [← originSame.repository, named]
  · rw [← originSame.evidenceScore, otherScore, here.evidenceScore]
  rw [← originSame.commit, otherCommit, here.commit]

end Choices

section Agree

variable {problem : CompatibilityProblem} {first second : String → CommitCandidate}

theorem IsBest.commit_eq (best : IsBest problem first) (other : IsBest problem second) :
    ∀ repository ∈ problem.requiredRepositories,
      (first repository).commit = (second repository).commit := by
  have score : totalScore problem first = totalScore problem second :=
    le_antisymm (other.highest first best.toIsChoice) (best.highest second other.toIsChoice)
  have commits : commitList problem first = commitList problem second :=
    le_antisymm (best.least second other.toIsChoice score.symm)
      (other.least first best.toIsChoice score)
  intro repository required
  exact map_inj_left.1 commits repository (mem_ordered.2 required)

def higherOf (first second : String → CommitCandidate) (repository : String) : CommitCandidate :=
  if (first repository).evidenceScore.toNat < (second repository).evidenceScore.toNat then
    second repository
  else
    first repository

theorem isChoice_higherOf (choice : IsChoice problem first) (other : IsChoice problem second)
    (commits : ∀ repository ∈ problem.requiredRepositories,
      (first repository).commit = (second repository).commit) :
    IsChoice problem (higherOf first second) := by
  have either : ∀ repository, higherOf first second repository = second repository ∨
      higherOf first second repository = first repository := by
    intro repository
    rw [higherOf]
    split
    · exact .inl rfl
    exact .inr rfl
  have fields : ∀ repository ∈ problem.requiredRepositories,
      (higherOf first second repository).repository = (first repository).repository ∧
        (higherOf first second repository).commit = (first repository).commit := by
    intro repository required
    rcases either repository with same | same
    · rw [same, other.repository repository required, choice.repository repository required]
      exact ⟨rfl, (commits repository required).symm⟩
    rw [same]
    exact ⟨rfl, rfl⟩
  refine ⟨?_, ?_, ?_⟩
  · intro repository required
    rcases either repository with same | same
    · rw [same]
      exact other.candidate repository required
    rw [same]
    exact choice.candidate repository required
  · intro repository required
    rw [(fields repository required).1, choice.repository repository required]
  intro left inLeft right inRight apart
  exact (choice.compatible left inLeft right inRight apart).congr (fields left inLeft).1
    (fields left inLeft).2 (fields right inRight).1 (fields right inRight).2

theorem IsBest.score_le (best : IsBest problem first) (other : IsChoice problem second)
    (commits : ∀ repository ∈ problem.requiredRepositories,
      (first repository).commit = (second repository).commit) :
    ∀ repository ∈ problem.requiredRepositories,
      (second repository).evidenceScore.toNat ≤ (first repository).evidenceScore.toNat := by
  intro repository required
  by_contra more
  have higher := best.highest _ (isChoice_higherOf best.toIsChoice other commits)
  have lower : totalScore problem first < totalScore problem (higherOf first second) := by
    refine sum_lt_sum _ _ (fun repository _ => ?_) ⟨repository, required, ?_⟩
    · rw [higherOf]
      split
      · rename_i less
        exact less.le
      exact le_rfl
    rw [higherOf, if_pos (not_le.1 more)]
    exact not_le.1 more
  exact lower.not_ge higher

theorem IsBestWithBase.agrees (best : IsBestWithBase problem first)
    (other : IsBestWithBase problem second) {repository : String}
    (required : repository ∈ problem.requiredRepositories) :
    (first repository).repository = (second repository).repository ∧
      (first repository).evidenceScore = (second repository).evidenceScore ∧
      (first repository).commit = (second repository).commit ∧
      (first repository).baseRef = (second repository).baseRef := by
  have commits := best.toIsBest.commit_eq other.toIsBest
  have score : (first repository).evidenceScore = (second repository).evidenceScore := by
    apply UInt32.toNat_inj.1
    exact le_antisymm
      (other.toIsBest.score_le best.toIsChoice (fun r inside => (commits r inside).symm)
        repository required)
      (best.toIsBest.score_le other.toIsChoice commits repository required)
  have named := best.repository repository required
  have otherNamed := other.repository repository required
  refine ⟨named.trans otherNamed.symm, score, commits repository required, le_antisymm ?_ ?_⟩
  · exact best.base repository required _ (other.candidate repository required) otherNamed
      score.symm (commits repository required).symm
  exact other.base repository required _ (best.candidate repository required) named score
    (commits repository required)

end Agree

/-! ### Order dependence -/

/-- All best choices with least bases record the same evidence. -/
def EvidenceAgrees (problem : CompatibilityProblem) : Prop :=
  ∀ first second, IsBestWithBase problem first → IsBestWithBase problem second →
    ∀ repository ∈ problem.requiredRepositories,
      ∀ text, text ∈ (first repository).evidence ↔ text ∈ (second repository).evidence

/-- At most one repository and commit is outside the closure. -/
def OutsideAgrees (problem : CompatibilityProblem) : Prop :=
  ∀ first ∈ problem.candidates, ∀ second ∈ problem.candidates,
    first.repository ∉ problem.requiredRepositories →
    second.repository ∉ problem.requiredRepositories →
      first.repository = second.repository ∧ first.commit = second.commit

theorem IsBestWithBase.canonical_eq
    {first second : String → CommitCandidate} (best : IsBestWithBase problem first)
    (other : IsBestWithBase problem second) {repository : String}
    (required : repository ∈ problem.requiredRepositories) :
    (first repository).canonical = (second repository).canonical ↔
      ∀ text, text ∈ (first repository).evidence ↔ text ∈ (second repository).evidence := by
  obtain ⟨named, score, commit, base⟩ := best.agrees other required
  rw [← sortDedup_eq_iff, CommitCandidate.canonical, CommitCandidate.canonical]
  simp [named, score, commit, base]

variable {vector : CompatibilityVector}

theorem solve_best (solved : solveCompatibilityVector problem = .ok vector) :
    ∃ pick, IsBestWithBase problem pick ∧ IsFirst problem pick ∧ vector = vectorOf problem pick := by
  obtain ⟨pick, best, first, same⟩ := solve_sound solved
  exact ⟨pick, { best with base := first.base }, first, same⟩

theorem SameUpToOrder.vector_eq (same : SameUpToOrder first second) (agrees : EvidenceAgrees first)
    {other : CompatibilityVector} (solved : solveCompatibilityVector first = .ok vector)
    (solvedOther : solveCompatibilityVector second = .ok other) : other = vector := by
  obtain ⟨pick, best, -, rfl⟩ := solve_best solved
  obtain ⟨image, bestImage, -, rfl⟩ := solve_best solvedOther
  obtain ⟨back, bestBack, related⟩ := IsBestWithBase.transfer same.symm bestImage
  have canonical : ∀ repository ∈ first.requiredRepositories,
      (image repository).canonical = (pick repository).canonical := by
    intro repository required
    rw [(related repository (same.required.mem_iff.1 required)).canonical]
    exact (bestBack.canonical_eq best required).2 (agrees back pick bestBack best repository required)
  have score : totalScore second image = totalScore first pick := by
    rw [totalScore_eq, totalScore_eq, same.ordered_eq.symm]
    refine congrArg List.sum (map_congr_left fun repository required => ?_)
    rw [← canonical_evidenceScore, canonical repository (mem_ordered.1 required),
      canonical_evidenceScore]
  rw [vectorOf, vectorOf, score, same.ordered_eq.symm]
  congr 1
  exact map_congr_left fun repository required => canonical repository (mem_ordered.1 required)

def firstError (problem : CompatibilityProblem) : Option CompatibilityError :=
  if problem.requiredRepositories = [] then
    some .emptyProblem
  else
    match firstRepeated problem.ordered with
    | some repository => some (.duplicateRepository repository)
    | none =>
    match problem.candidates.find? fun candidate => candidate.repository ∉ problem.ordered with
    | some outside => some (.candidateOutsideClosure outside.repository outside.commit)
    | none =>
    match problem.ordered.find? fun repository => problem.group repository = [] with
    | some missing => some (.missingCandidates missing)
    | none => none

theorem solve_eq_firstError (problem : CompatibilityProblem) :
    solveCompatibilityVector problem =
      match firstError problem with
      | some error => .error error
      | none =>
      match problem.vectors.foldl (keep vectorKey) none with
      | none => .error .noCompatibleVector
      | some best => .ok best := by
  rw [solve_eq, firstError]
  split
  · rfl
  cases firstRepeated problem.ordered with
  | some repository => rfl
  | none =>
    cases problem.candidates.find? fun candidate => candidate.repository ∉ problem.ordered with
    | some outside => rfl
    | none =>
      cases problem.ordered.find? fun repository => problem.group repository = [] with
      | some missing => rfl
      | none => rfl

theorem checked_of_solve (solved : solveCompatibilityVector problem = .ok vector) :
    problem.requiredRepositories ≠ [] ∧ problem.requiredRepositories.Nodup ∧
      ∀ candidate ∈ problem.candidates, candidate.repository ∈ problem.requiredRepositories := by
  rw [solve_eq] at solved
  split at solved
  · cases solved
  rename_i nonempty
  split at solved
  · cases solved
  rename_i repeated
  have distinct : problem.ordered.Nodup :=
    (firstRepeated_eq_none_iff (pairwise_insertionSort _ _)).1 repeated
  split at solved
  · cases solved
  rename_i noOutside
  refine ⟨nonempty, (ordered_perm problem).nodup_iff.1 distinct, fun candidate listed => ?_⟩
  have passed := find?_eq_none.1 noOutside candidate listed
  simpa [mem_ordered] using passed

section

variable (same : SameUpToOrder first second)
include same

theorem SameUpToOrder.inside
    (inside : ∀ candidate ∈ first.candidates, candidate.repository ∈ first.requiredRepositories) :
    ∀ candidate ∈ second.candidates, candidate.repository ∈ second.requiredRepositories := by
  intro candidate listed
  obtain ⟨origin, member, related⟩ := same.symm.exists_candidate listed
  rw [related.repository]
  exact same.required.mem_iff.1 (inside origin member)

theorem SameUpToOrder.solved (solved : solveCompatibilityVector first = .ok vector) :
    ∃ other, solveCompatibilityVector second = .ok other := by
  obtain ⟨nonempty, distinct, inside⟩ := checked_of_solve solved
  obtain ⟨pick, best, -⟩ := solve_sound solved
  obtain ⟨image, choice, -⟩ := IsChoice.transfer same best.toIsChoice
  refine solve_complete (fun empty => nonempty ?_) (same.required.nodup_iff.1 distinct)
    (same.inside inside) choice
  exact perm_nil.1 (empty ▸ same.required)

theorem SameUpToOrder.group_eq_nil_iff (repository : String) :
    first.group repository = [] ↔ second.group repository = [] := by
  have half : ∀ {first second : CompatibilityProblem}, SameUpToOrder first second →
      first.group repository = [] → second.group repository = [] := by
    intro first second same empty
    rw [CompatibilityProblem.group, filter_eq_nil_iff] at empty ⊢
    intro candidate listed
    obtain ⟨origin, member, related⟩ := same.symm.exists_candidate listed
    rw [related.repository]
    exact empty origin member
  exact ⟨half same, half same.symm⟩

theorem SameUpToOrder.firstError_eq
    (outside : first.requiredRepositories = [] ∨ ¬first.requiredRepositories.Nodup ∨
      OutsideAgrees first) : firstError second = firstError first := by
  have empty : second.requiredRepositories = [] ↔ first.requiredRepositories = [] := by
    rw [← length_eq_zero_iff, ← same.required.length_eq, length_eq_zero_iff]
  simp only [firstError, empty, ← same.ordered_eq]
  split
  · rfl
  rename_i nonempty
  split
  · rfl
  rename_i repeated
  have distinct : first.ordered.Nodup :=
    (firstRepeated_eq_none_iff (pairwise_insertionSort _ _)).1 repeated
  have agrees := (outside.resolve_left nonempty).resolve_left
    (not_not.2 ((ordered_perm first).nodup_iff.1 distinct))
  have groups : (fun repository => decide (second.group repository = [])) =
      fun repository => decide (first.group repository = []) := by
    funext repository
    simp only [same.group_eq_nil_iff]
  rw [groups]
  cases here : first.candidates.find? fun candidate => candidate.repository ∉ first.ordered with
  | none =>
    have noneThere : (second.candidates.find? fun candidate =>
        candidate.repository ∉ first.ordered) = none := by
      rw [find?_eq_none] at here ⊢
      intro candidate listed
      obtain ⟨origin, member, related⟩ := same.symm.exists_candidate listed
      rw [related.repository]
      exact here origin member
    rw [noneThere]
  | some candidate =>
    have outsideHere := find?_some here
    obtain ⟨image, member, related⟩ :=
      same.exists_candidate (mem_of_find?_eq_some here)
    obtain ⟨other, there⟩ : ∃ other, (second.candidates.find? fun candidate =>
        candidate.repository ∉ first.ordered) = some other := by
      rw [← Option.isSome_iff_exists, find?_isSome]
      exact ⟨image, member, by rw [← related.repository]; exact outsideHere⟩
    obtain ⟨origin, listed, originSame⟩ :=
      same.symm.exists_candidate (mem_of_find?_eq_some there)
    have outsideThere := find?_some there
    rw [originSame.repository] at outsideThere
    have equal := agrees origin listed candidate (mem_of_find?_eq_some here)
      (by simpa [mem_ordered] using outsideThere) (by simpa [mem_ordered] using outsideHere)
    rw [there]
    simp only [originSame.repository, originSame.commit, equal.1, equal.2]

end

theorem orderIndependent_of
    (condition : problem.requiredRepositories = [] ∨ ¬problem.requiredRepositories.Nodup ∨
      OutsideAgrees problem ∧ ((∀ candidate ∈ problem.candidates,
          candidate.repository ∈ problem.requiredRepositories) → EvidenceAgrees problem)) :
    OrderIndependent problem := by
  intro other same
  have checks := same.firstError_eq (condition.imp_right (Or.imp_right And.left))
  cases solved : solveCompatibilityVector problem with
  | ok vector =>
    obtain ⟨nonempty, distinct, inside⟩ := checked_of_solve solved
    have agrees := ((condition.resolve_left nonempty).resolve_left (not_not.2 distinct)).2 inside
    obtain ⟨vector', solvedOther⟩ := same.solved solved
    rw [solvedOther, same.vector_eq agrees solved solvedOther]
  | error error =>
    cases solvedOther : solveCompatibilityVector other with
    | ok vector =>
      obtain ⟨back, solvedBack⟩ := same.symm.solved solvedOther
      exact nomatch solved.symm.trans solvedBack
    | error error' =>
      rw [solve_eq_firstError] at solved solvedOther
      rw [checks] at solvedOther
      cases first : firstError problem with
      | some failed =>
        rw [first] at solved solvedOther
        exact solvedOther.symm.trans solved
      | none =>
        rw [first] at solved solvedOther
        simp only at solved solvedOther
        split at solved
        · split at solvedOther
          · exact solvedOther.symm.trans solved
          · cases solvedOther
        cases solved

theorem solve_outside_first
    (nonempty : problem.requiredRepositories ≠ []) (distinct : problem.requiredRepositories.Nodup)
    {candidate : CommitCandidate} {rest : List CommitCandidate}
    (outside : candidate.repository ∉ problem.requiredRepositories) :
    solveCompatibilityVector { problem with candidates := candidate :: rest } =
      .error (.candidateOutsideClosure candidate.repository candidate.commit) := by
  have orderedDistinct : problem.ordered.Nodup := (ordered_perm problem).nodup_iff.2 distinct
  have repeated : firstRepeated problem.ordered = none :=
    (firstRepeated_eq_none_iff (pairwise_insertionSort _ _)).2 orderedDistinct
  rw [solve_eq, if_neg nonempty]
  change (match firstRepeated problem.ordered with
    | some repository => _
    | none => _) = _
  rw [repeated]
  simp only
  rw [find?_cons_of_pos]
  exact decide_eq_true fun inside => outside (mem_ordered.1 inside)

theorem solve_first {pick : String → CommitCandidate}
    (nonempty : problem.requiredRepositories ≠ []) (distinct : problem.requiredRepositories.Nodup)
    (inside : ∀ candidate ∈ problem.candidates, candidate.repository ∈ problem.requiredRepositories)
    (best : IsBestWithBase problem pick) {repository : String}
    (required : repository ∈ problem.requiredRepositories) :
    ∃ other, SameUpToOrder problem other ∧ ∃ image,
      solveCompatibilityVector other = .ok (vectorOf other image) ∧
        image repository = pick repository := by
  have listed := best.candidate repository required
  have same := SameUpToOrder.of_perm problem (perm_cons_erase listed)
  obtain ⟨moved, bestMoved, related⟩ := IsBestWithBase.transfer same best
  obtain ⟨vector, solved⟩ := @solve_complete
    { problem with candidates := pick repository :: problem.candidates.erase (pick repository) }
    _ nonempty distinct (same.inside inside) bestMoved.toIsChoice
  obtain ⟨image, bestImage, first, rfl⟩ := solve_best solved
  refine ⟨_, same, image, solved, ?_⟩
  obtain ⟨-, score, commit, base⟩ := bestImage.agrees bestMoved required
  have sameKey : (pick repository).sortKey = (image repository).sortKey := by
    have moved := related repository required
    exact sortKey_eq_iff.2 ⟨moved.evidenceScore.trans score.symm, moved.commit.trans commit.symm,
      moved.baseRef.trans base.symm⟩
  have found := first.first repository required
  have head : (pick repository :: problem.candidates.erase (pick repository)).find?
      (fun candidate => candidate.repository = repository ∧
        candidate.sortKey = (image repository).sortKey) = some (pick repository) :=
    find?_cons_of_pos (decide_eq_true ⟨best.repository repository required, sameKey⟩)
  exact Option.some.inj (found.symm.trans head)

/-- The result does not depend on the order exactly if no repository is required or one is repeated,
or at most one repository and commit is outside the closure and, if none is, all best choices record
the same evidence. -/
theorem orderIndependent_iff (problem : CompatibilityProblem) : OrderIndependent problem ↔
      problem.requiredRepositories = [] ∨ ¬problem.requiredRepositories.Nodup ∨
        OutsideAgrees problem ∧ ((∀ candidate ∈ problem.candidates,
            candidate.repository ∈ problem.requiredRepositories) → EvidenceAgrees problem) := by
  refine ⟨fun independent => ?_, orderIndependent_of⟩
  by_cases nonempty : problem.requiredRepositories = []
  · exact .inl nonempty
  by_cases distinct : problem.requiredRepositories.Nodup
  · refine .inr (.inr ⟨?_, ?_⟩)
    · intro first inFirst second inSecond firstOutside secondOutside
      have firstResult := independent _
        (SameUpToOrder.of_perm problem (perm_cons_erase inFirst))
      have secondResult := independent _
        (SameUpToOrder.of_perm problem (perm_cons_erase inSecond))
      rw [solve_outside_first nonempty distinct firstOutside] at firstResult
      rw [solve_outside_first nonempty distinct secondOutside] at secondResult
      have equal := firstResult.trans secondResult.symm
      simpa using equal
    · intro inside first second bestFirst bestSecond repository required
      obtain ⟨_, sameLeft, left, solvedLeft, leftPick⟩ :=
        solve_first nonempty distinct inside bestFirst required
      obtain ⟨_, sameRight, right, solvedRight, rightPick⟩ :=
        solve_first nonempty distinct inside bestSecond required
      have equal := solvedLeft.symm.trans ((independent _ sameLeft).trans
        ((independent _ sameRight).symm.trans solvedRight))
      have commits := congrArg CompatibilityVector.commits (Except.ok.inj equal)
      simp only [vectorOf, ← sameLeft.ordered_eq, ← sameRight.ordered_eq] at commits
      have here := map_inj_left.1 commits repository (mem_ordered.2 required)
      rw [leftPick, rightPick] at here
      exact (bestFirst.canonical_eq bestSecond required).1 here
  · exact .inr (.inl distinct)

def repeatedProblem : CompatibilityProblem where
  requiredRepositories := ["a"]
  candidates :=
    [{ repository := "a", baseRef := "main", commit := "a1", evidenceScore := 10,
       evidence := ["ci"] },
     { repository := "a", baseRef := "main", commit := "a1", evidenceScore := 10,
       evidence := ["release"] }]
  compatiblePairs := []

theorem repeatedProblem_orderDependent : ¬OrderIndependent repeatedProblem := by
  intro independent
  have swapped := independent _ (SameUpToOrder.of_perm repeatedProblem (List.Perm.swap _ _ []))
  have different : ¬solveCompatibilityVector
      { repeatedProblem with
        candidates :=
          [{ repository := "a", baseRef := "main", commit := "a1", evidenceScore := 10,
             evidence := ["release"] },
           { repository := "a", baseRef := "main", commit := "a1", evidenceScore := 10,
             evidence := ["ci"] }] } = solveCompatibilityVector repeatedProblem := by
    decide +kernel
  exact different swapped

end Wts.Compatibility
