/-
Module: Wts.Proofs.Compatibility
Purpose: The selected commit vector is the best of all compatible choices.
Trusted boundary: none
Main exports: solve_correct
-/
import Wts.Core.Compatibility
import Wts.Library.BestChoice
import Wts.Library.MapRows

namespace Wts.Compatibility

open Text BestChoice List CompatibilityConstraints Function MapRows
open Std (ExtTreeMap)

/-- The pair is about two repositories, in either orientation. -/
def CompatiblePair.Relates (pair : CompatiblePair) (first second : String) : Prop :=
  pair.leftRepository = first ∧ pair.rightRepository = second ∨
    pair.leftRepository = second ∧ pair.rightRepository = first

/-- The pair lists the commits of two candidates, in either orientation. -/
def CompatiblePair.Lists (pair : CompatiblePair) (first second : CommitCandidate) : Prop :=
  pair.leftRepository = first.repository ∧ pair.leftCommit = first.commit ∧
      pair.rightRepository = second.repository ∧ pair.rightCommit = second.commit ∨
    pair.leftRepository = second.repository ∧ pair.leftCommit = second.commit ∧
      pair.rightRepository = first.repository ∧ pair.rightCommit = first.commit

/-- Two candidates go together unless some pair is about their repositories and none lists them. -/
def Compatible (pairs : List CompatiblePair) (first second : CommitCandidate) : Prop :=
  (∃ pair ∈ pairs, pair.Relates first.repository second.repository) →
    ∃ pair ∈ pairs, pair.Lists first second

variable {pairs : List CompatiblePair}

theorem Compatible.symm {first second : CommitCandidate}
    (compatible : Compatible pairs first second) : Compatible pairs second first := by
  intro ⟨pair, inside, relates⟩
  obtain ⟨listed, member, lists⟩ := compatible ⟨pair, inside, relates.symm⟩
  exact ⟨listed, member, lists.symm⟩

theorem Compatible.congr {first second first' second' : CommitCandidate}
    (compatible : Compatible pairs first second) (firstRepository : first'.repository = first.repository)
    (firstCommit : first'.commit = first.commit)
    (secondRepository : second'.repository = second.repository)
    (secondCommit : second'.commit = second.commit) : Compatible pairs first' second' := by
  simpa only [Compatible, CompatiblePair.Lists, firstRepository, firstCommit, secondRepository,
    secondCommit] using compatible

variable {pair : CompatiblePair}

section

variable {first second : CommitCandidate} (apart : first.repository ≠ second.repository)
include apart

theorem canonicalPair_eq_iff :
    canonicalPair pair = canonicalCandidatePair first second ↔ pair.Lists first second := by
  have strict : first.repository ≤ second.repository → ¬second.repository ≤ first.repository :=
    fun le ge => apart (le_antisymm le ge)
  rw [canonicalPair, canonicalCandidatePair, CompatiblePair.Lists]
  split
  · rename_i pairOrder
    split
    · rename_i order
      simp only [Prod.mk.injEq]
      refine ⟨.inl, fun listed => listed.resolve_right fun swapped => ?_⟩
      rw [swapped.1, swapped.2.2.1] at pairOrder
      exact strict order pairOrder
    rename_i order
    simp only [Prod.mk.injEq]
    refine ⟨.inr, fun listed => listed.resolve_left fun straight => ?_⟩
    rw [straight.1, straight.2.2.1] at pairOrder
    exact order pairOrder
  rename_i pairOrder
  split
  · rename_i order
    simp only [Prod.mk.injEq]
    constructor
    · intro ⟨right, rightCommit, left, leftCommit⟩
      exact .inr ⟨left, leftCommit, right, rightCommit⟩
    intro listed
    rcases listed with ⟨left, _, right, _⟩ | ⟨left, leftCommit, right, rightCommit⟩
    · rw [left, right] at pairOrder
      exact absurd order pairOrder
    exact ⟨right, rightCommit, left, leftCommit⟩
  rename_i order
  simp only [Prod.mk.injEq]
  constructor
  · intro ⟨right, rightCommit, left, leftCommit⟩
    exact .inl ⟨left, leftCommit, right, rightCommit⟩
  intro listed
  rcases listed with ⟨left, leftCommit, right, rightCommit⟩ | ⟨left, _, right, _⟩
  · exact ⟨right, rightCommit, left, leftCommit⟩
  rw [left, right] at pairOrder
  exact absurd (le_of_not_ge order) pairOrder

theorem repositories_canonicalPair_eq_iff :
    (canonicalPair pair).1 = (canonicalCandidatePair first second).1 ∧
        (canonicalPair pair).2.2.1 = (canonicalCandidatePair first second).2.2.1 ↔
      pair.Relates first.repository second.repository := by
  have blank := @canonicalPair_eq_iff { pair with leftCommit := "", rightCommit := "" }
    { first with commit := "" } { second with commit := "" } apart
  simp only [canonicalPair, canonicalCandidatePair, CompatiblePair.Lists, true_and, and_true] at blank
  rw [CompatiblePair.Relates, ← blank, canonicalPair, canonicalCandidatePair]
  split
  · split
    · simp
    · simp
  split
  · simp
  simp

theorem allows_iff : (new pairs).allows first second = true ↔ Compatible pairs first second := by
  have constrained : ((canonicalCandidatePair first second).1,
        (canonicalCandidatePair first second).2.2.1) ∈
      (new pairs).constrainedRepositoryPairs ↔
        ∃ pair ∈ pairs, pair.Relates first.repository second.repository := by
    simp only [new, mem_map, Prod.mk.injEq, repositories_canonicalPair_eq_iff apart]
  have allowed : canonicalCandidatePair first second ∈ (new pairs).allowedCommitPairs ↔
        ∃ pair ∈ pairs, pair.Lists first second := by
    simp only [new, mem_map, canonicalPair_eq_iff apart]
  rw [Compatible, ← constrained, ← allowed, imp_iff_not_or]
  simp [allows]

end

/-- The repositories in the order in which the solver fills them. -/
def CompatibilityProblem.ordered (problem : CompatibilityProblem) : List String :=
  problem.requiredRepositories.insertionSort (· ≤ ·)

def CompatibilityProblem.group (problem : CompatibilityProblem) (repository : String) :
    List CommitCandidate :=
  problem.candidates.filter fun candidate => candidate.repository = repository

def CompatibilityProblem.options (problem : CompatibilityProblem) (repository : String) :
    List CommitCandidate :=
  distinctCommits ((problem.group repository).map CommitCandidate.canonical)

theorem firstRepeated_eq_none_iff {sorted : List String} (order : sorted.Pairwise (· ≤ ·)) :
    firstRepeated sorted = none ↔ sorted.Nodup := by
  induction sorted with
  | nil => simp [firstRepeated]
  | cons first rest ih =>
    cases rest with
    | nil => simp [firstRepeated]
    | cons second rest =>
      obtain ⟨below, orderRest⟩ := pairwise_cons.1 order
      rw [firstRepeated, nodup_cons]
      split
      · rename_i same
        simp [same]
      rename_i apart
      rw [ih orderRest]
      refine ⟨fun distinct => ⟨fun inside => ?_, distinct⟩, fun both => both.2⟩
      -- a copy of the first one later on would pass the second one in the order
      have later := (mem_cons.1 inside).resolve_left apart
      have above := (pairwise_cons.1 orderRest).1 first later
      exact apart (le_antisymm (below second mem_cons_self) above)

variable {groups : ExtTreeMap String (List CommitCandidate)}

theorem groupCandidates_eq_error {required : List String} {candidates : List CommitCandidate}
    {outside : CommitCandidate}
    (found : candidates.find? (fun candidate => candidate.repository ∉ required) = some outside) :
    groupCandidates required candidates groups =
      .error (.candidateOutsideClosure outside.repository outside.commit) := by
  induction candidates generalizing groups with
  | nil => cases found
  | cons candidate rest ih =>
    rw [groupCandidates]
    by_cases inside : candidate.repository ∈ required
    · rw [if_neg (not_not.2 inside)]
      rw [find?_cons_of_neg (by simpa using inside)] at found
      exact ih found
    rw [find?_cons_of_pos (by simpa using inside)] at found
    rw [if_pos inside, Option.some.inj found]

theorem groupCandidates_eq_ok {required : List String} {candidates : List CommitCandidate}
    (inside : ∀ candidate ∈ candidates, candidate.repository ∈ required) :
    ∃ result, groupCandidates required candidates groups = .ok result ∧
      ∀ repository, result[repository]? =
        match (candidates.filter fun candidate => candidate.repository = repository).map
            CommitCandidate.canonical with
        | [] => groups[repository]?
        | added => some ((groups[repository]?).getD [] ++ added) := by
  induction candidates generalizing groups with
  | nil => exact ⟨groups, rfl, fun _ => rfl⟩
  | cons candidate rest ih =>
    rw [forall_mem_cons] at inside
    rw [groupCandidates, if_neg (not_not.2 inside.1)]
    obtain ⟨result, done, lookup⟩ := @ih (groups.insert candidate.repository
      ((groups[candidate.repository]?).getD [] ++ [candidate.canonical])) inside.2
    refine ⟨result, done, fun repository => ?_⟩
    rw [lookup, lookup_insert, filter_cons]
    by_cases here : candidate.repository = repository
    · subst here
      simp only [if_true, decide_true, map_cons]
      split
      · rename_i none
        simp [none]
      rename_i added
      simp
    simp only [here, if_false, decide_false, Bool.false_eq_true]

theorem sortGroups_eq_ok {repositories : List String} (distinct : repositories.Nodup)
    (supplied : ∀ repository ∈ repositories, groups[repository]? ≠ none) :
    ∃ result, sortGroups repositories groups = .ok result ∧ ∀ repository, result[repository]? =
        if repository ∈ repositories then (groups[repository]?).map distinctCommits
        else groups[repository]? := by
  induction repositories generalizing groups with
  | nil => exact ⟨groups, rfl, by simp⟩
  | cons first rest ih =>
    obtain ⟨fresh, distinct⟩ := nodup_cons.1 distinct
    rw [forall_mem_cons] at supplied
    obtain ⟨candidates, found⟩ := Option.ne_none_iff_exists'.1 supplied.1
    have others : ∀ repository ∈ rest,
        (groups.insert first (distinctCommits candidates))[repository]? ≠ none := by
      intro repository inside
      rw [lookup_insert, if_neg fun same : first = repository => fresh (same ▸ inside)]
      exact supplied.2 repository inside
    obtain ⟨result, done, lookup⟩ := ih distinct others
    refine ⟨result, by simp only [sortGroups, found, done], fun repository => ?_⟩
    rw [lookup, lookup_insert]
    by_cases here : first = repository
    · subst here
      simp [fresh, found]
    simp [here, Ne.symm here]

theorem sortGroups_eq_error {repositories : List String} (distinct : repositories.Nodup)
    {missing : String}
    (found : repositories.find? (fun repository => groups[repository]? = none) = some missing) :
    sortGroups repositories groups = .error (.missingCandidates missing) := by
  induction repositories generalizing groups with
  | nil => cases found
  | cons first rest ih =>
    obtain ⟨fresh, distinct⟩ := nodup_cons.1 distinct
    rw [sortGroups]
    cases at_first : groups[first]? with
    | none =>
      rw [find?_cons_of_pos (by simp [at_first])] at found
      rw [Option.some.inj found]
    | some candidates =>
      rw [find?_cons_of_neg (by simp [at_first])] at found
      refine ih distinct ?_
      rw [← found]
      apply find?_congr
      intro repository inside
      rw [lookup_insert, if_neg fun same : first = repository => fresh (same ▸ inside)]

/-! ### The search -/

def scoreSum (chosen : List CommitCandidate) : ℕ :=
  (chosen.map fun candidate => candidate.evidenceScore.toNat).sum

def toVector (chosen : List CommitCandidate) : CompatibilityVector where
  commits := chosen
  evidenceScore := scoreSum chosen

def vectorKey (vector : CompatibilityVector) : ℕᵒᵈ ×ₗ List (String ×ₗ String) :=
  toLex (OrderDual.toDual vector.evidenceScore, canonicalCommits vector)

theorem keep_eq (best : Option CompatibilityVector) (vector : CompatibilityVector) :
    keep vectorKey best vector = if isBetter vector best then some vector else best := by
  cases best with
  | none => rfl
  | some current =>
    have same : isBetter vector (some current) = true ↔ vectorKey vector < vectorKey current := by
      simp [isBetter, vectorKey, Prod.Lex.toLex_lt_toLex]
    simp only [keep, ← same]

theorem search_eq {candidates : ExtTreeMap String (List CommitCandidate)}
    {constraints : CompatibilityConstraints} {options : String → List CommitCandidate}
    {repositories : List String} {chosen : List CommitCandidate} {best : Option CompatibilityVector}
    (known : ∀ repository ∈ repositories, candidates[repository]? = some (options repository)) :
    search candidates constraints repositories chosen (scoreSum chosen) best =
      ((explore options constraints.allows repositories chosen).map toVector).foldl
        (keep vectorKey) best := by
  induction repositories generalizing chosen best with
  | nil =>
    simp only [search, explore, map_cons, map_nil, foldl_cons, foldl_nil, keep_eq]
    rfl
  | cons repository rest ih =>
    rw [forall_mem_cons] at known
    rw [search, known.1, explore]
    simp only
    generalize options repository = tried
    induction tried generalizing best with
    | nil => rfl
    | cons candidate others each =>
      rw [foldl_cons, each, flatMap_cons, map_append, foldl_append]
      congr 1
      split
      · have grown : scoreSum chosen + candidate.evidenceScore.toNat =
            scoreSum (chosen ++ [candidate]) := by simp [scoreSum]
        rw [grown, ih known.2]
      rfl

def CompatibilityProblem.vectors (problem : CompatibilityProblem) : List CompatibilityVector :=
  (explore problem.options (CompatibilityConstraints.new problem.compatiblePairs).allows
    problem.ordered []).map toVector

theorem ordered_perm (problem : CompatibilityProblem) :
    problem.ordered.Perm problem.requiredRepositories :=
  perm_insertionSort _ _

variable {repository : String}

theorem mem_ordered {problem : CompatibilityProblem} :
    repository ∈ problem.ordered ↔ repository ∈ problem.requiredRepositories :=
  (ordered_perm problem).mem_iff

theorem groups_eq_ok {problem : CompatibilityProblem} {required : List String}
    (inside : ∀ candidate ∈ problem.candidates, candidate.repository ∈ required) :
    ∃ groups, groupCandidates required problem.candidates ∅ = .ok groups ∧
      ∀ repository, groups[repository]? = if problem.group repository = [] then none
        else some ((problem.group repository).map CommitCandidate.canonical) := by
  obtain ⟨groups, done, lookup⟩ := @groupCandidates_eq_ok ∅ required problem.candidates inside
  refine ⟨groups, done, fun repository => ?_⟩
  rw [lookup, CompatibilityProblem.group]
  cases problem.candidates.filter fun candidate => candidate.repository = repository with
  | nil => simp
  | cons candidate rest => simp

theorem solve_eq (problem : CompatibilityProblem) :
    solveCompatibilityVector problem =
      if problem.requiredRepositories = [] then
        .error .emptyProblem
      else
        match firstRepeated problem.ordered with
        | some repository => .error (.duplicateRepository repository)
        | none =>
        match problem.candidates.find? fun candidate =>
            candidate.repository ∉ problem.ordered with
        | some outside =>
          .error (.candidateOutsideClosure outside.repository outside.commit)
        | none =>
        match problem.ordered.find? fun repository => problem.group repository = [] with
        | some missing => .error (.missingCandidates missing)
        | none =>
        match problem.vectors.foldl (keep vectorKey) none with
        | none => .error .noCompatibleVector
        | some best => .ok best := by
  rw [solveCompatibilityVector]
  split
  · rfl
  change (match firstRepeated problem.ordered with
    | some repository => _
    | none => _) = _
  cases repeated : firstRepeated problem.ordered with
  | some repository => rfl
  | none =>
    have distinct : problem.ordered.Nodup :=
      (firstRepeated_eq_none_iff (pairwise_insertionSort _ _)).1 repeated
    simp only
    cases found : problem.candidates.find? fun candidate =>
        candidate.repository ∉ problem.ordered with
    | some outside =>
      have refused := @groupCandidates_eq_error ∅ _ _ _ found
      simp only [CompatibilityProblem.ordered] at refused
      rw [refused]
      rfl
    | none =>
      have inside : ∀ candidate ∈ problem.candidates,
          candidate.repository ∈ problem.ordered := fun candidate member => by
        simpa using find?_eq_none.1 found candidate member
      obtain ⟨groups, grouped, lookup⟩ := groups_eq_ok inside
      simp only [CompatibilityProblem.ordered] at grouped
      rw [grouped]
      cases gap : problem.ordered.find? fun repository => problem.group repository = [] with
      | some missing =>
        have refused : sortGroups problem.ordered groups =
            .error (.missingCandidates missing) := by
          refine sortGroups_eq_error distinct ?_
          simpa only [lookup, ite_eq_left_iff, reduceCtorEq, imp_false, not_not] using gap
        simp only [CompatibilityProblem.ordered] at refused
        change (sortGroups _ groups >>= _) = _
        rw [refused]
        rfl
      | none =>
        have supplied : ∀ repository ∈ problem.ordered,
            problem.group repository ≠ [] := fun repository member => by
          simpa using find?_eq_none.1 gap repository member
        obtain ⟨candidates, sorted, known⟩ : ∃ candidates,
            sortGroups problem.ordered groups = .ok candidates ∧ ∀ repository ∈ problem.ordered,
                candidates[repository]? = some (problem.options repository) := by
          obtain ⟨candidates, done, sortedLookup⟩ := sortGroups_eq_ok distinct
            fun repository member => by rw [lookup, if_neg (supplied repository member)]; simp
          refine ⟨candidates, done, fun repository member => ?_⟩
          rw [sortedLookup, if_pos member, lookup, if_neg (supplied repository member)]
          rfl
        have searched := @search_eq candidates (new problem.compatiblePairs) _ _ [] none known
        simp only [CompatibilityProblem.ordered] at sorted
        change (sortGroups _ groups >>= _) = _
        rw [sorted]
        change (match search candidates _ problem.ordered [] (scoreSum []) none with
          | none => _
          | some best => _) = _
        rw [searched]
        rfl

section

variable (candidate : CommitCandidate)
include candidate

@[simp] theorem canonical_repository :
    candidate.canonical.repository = candidate.repository := rfl

@[simp] theorem canonical_baseRef :
    candidate.canonical.baseRef = candidate.baseRef := rfl

@[simp] theorem canonical_commit :
    candidate.canonical.commit = candidate.commit := rfl

@[simp] theorem canonical_evidenceScore :
    candidate.canonical.evidenceScore = candidate.evidenceScore := rfl

@[simp] theorem canonical_sortKey :
    candidate.canonical.sortKey = candidate.sortKey := rfl

end

def CommitCandidate.mergeKey (candidate : CommitCandidate) : ℕᵒᵈ ×ₗ String :=
  toLex (OrderDual.toDual candidate.evidenceScore.toNat, candidate.commit)

section

variable {first second : CommitCandidate}

theorem mergeKey_le (below : first.sortKey ≤ second.sortKey) :
    first.mergeKey ≤ second.mergeKey := by
  rw [CommitCandidate.sortKey, CommitCandidate.sortKey, Prod.Lex.toLex_le_toLex] at below
  rw [CommitCandidate.mergeKey, CommitCandidate.mergeKey, Prod.Lex.toLex_le_toLex]
  refine below.imp_right fun ⟨score, rest⟩ => ⟨score, ?_⟩
  rcases Prod.Lex.toLex_le_toLex.1 rest with smaller | ⟨same, _⟩
  · exact smaller.le
  exact same.le

theorem mergeKey_eq_iff : first.mergeKey = second.mergeKey ↔
      first.evidenceScore = second.evidenceScore ∧ first.commit = second.commit := by
  simp [CommitCandidate.mergeKey, UInt32.toNat_inj]

theorem sortKey_eq_iff : first.sortKey = second.sortKey ↔
      first.evidenceScore = second.evidenceScore ∧ first.commit = second.commit ∧
        first.baseRef = second.baseRef := by
  simp [CommitCandidate.sortKey, UInt32.toNat_inj]

end

variable {option : CommitCandidate}

theorem find?_of_mem_options {problem : CompatibilityProblem}
    (inside : option ∈ problem.options repository) :
    (∃ listed, problem.candidates.find? (fun candidate =>
        candidate.repository = repository ∧ candidate.sortKey = option.sortKey) = some listed ∧
      listed.canonical = option) ∧ ∀ other ∈ problem.candidates, other.repository = repository →
      other.evidenceScore = option.evidenceScore → other.commit = option.commit →
        option.baseRef ≤ other.baseRef := by
  have sorted : ((problem.group repository).map CommitCandidate.canonical).insertionSort
      (fun left right => left.sortKey ≤ right.sortKey) |>.Pairwise
        fun left right => left.sortKey ≤ right.sortKey := pairwise_insertionSort _ _
  have first := find?_of_mem_destutter CommitCandidate.mergeKey CommitCandidate.commit
    (fun _ _ same => (mergeKey_eq_iff.1 same).2) (sorted.imp mergeKey_le) inside
  constructor
  · have narrower : ∀ candidate : CommitCandidate,
        decide (candidate.sortKey = option.sortKey) = true →
          decide (candidate.mergeKey = option.mergeKey) = true := by
      intro candidate same
      have equal := sortKey_eq_iff.1 (of_decide_eq_true same)
      exact decide_eq_true (mergeKey_eq_iff.2 ⟨equal.1, equal.2.1⟩)
    have firstKey := find?_of_find? first (decide_eq_true rfl) narrower
    rw [find?_insertionSort, find?_map] at firstKey
    obtain ⟨listed, found, same⟩ := Option.map_eq_some_iff.1 firstKey
    refine ⟨listed, ?_, same⟩
    rw [CompatibilityProblem.group, find?_filter] at found
    rw [← found]
    apply find?_congr
    intro candidate _
    rw [Bool.eq_iff_iff, decide_eq_true_iff, decide_eq_true_iff, decide_eq_true_iff,
      comp_apply, decide_eq_true_iff, canonical_sortKey]
  intro other listed named score commit
  have member : other.canonical ∈ ((problem.group repository).map
      CommitCandidate.canonical).insertionSort fun left right => left.sortKey ≤ right.sortKey := by
    rw [mem_insertionSort]
    exact mem_map_of_mem (mem_filter.2 ⟨listed, decide_eq_true named⟩)
  have below := key_le_of_find? CommitCandidate.sortKey sorted first member
    (decide_eq_true (mergeKey_eq_iff.2 ⟨score, commit⟩))
  simpa [CommitCandidate.sortKey, Prod.Lex.toLex_le_toLex, score, commit] using below

theorem exists_option {problem : CompatibilityProblem} {candidate : CommitCandidate}
    (listed : candidate ∈ problem.candidates) :
    ∃ option ∈ problem.options candidate.repository, option.commit = candidate.commit ∧
      candidate.evidenceScore.toNat ≤ option.evidenceScore.toNat := by
  have member : candidate.canonical ∈ ((problem.group candidate.repository).map
      CommitCandidate.canonical).insertionSort fun left right => left.sortKey ≤ right.sortKey := by
    rw [mem_insertionSort]
    exact mem_map_of_mem (mem_filter.2 ⟨listed, decide_eq_true rfl⟩)
  obtain ⟨option, inside, commit, below⟩ := exists_mem_destutter CommitCandidate.sortKey
    CommitCandidate.commit (pairwise_insertionSort _ _) member
  refine ⟨option, inside, commit, ?_⟩
  rcases Prod.Lex.toLex_le_toLex.1 below with higher | ⟨same, _⟩
  · exact (OrderDual.toDual_lt_toDual.1 higher).le
  exact (OrderDual.toDual_inj.1 same).ge

variable {problem : CompatibilityProblem}

/-- One candidate for each required repository, such that any two go together. -/
structure IsChoice (problem : CompatibilityProblem) (pick : String → CommitCandidate) : Prop where
  candidate : ∀ repository ∈ problem.requiredRepositories, pick repository ∈ problem.candidates
  repository : ∀ repository ∈ problem.requiredRepositories, (pick repository).repository = repository
  compatible : ∀ first ∈ problem.requiredRepositories, ∀ second ∈ problem.requiredRepositories,
    first ≠ second → Compatible problem.compatiblePairs (pick first) (pick second)

/-- The score of a choice. -/
def totalScore (problem : CompatibilityProblem) (pick : String → CommitCandidate) : ℕ :=
  (problem.requiredRepositories.map fun repository => (pick repository).evidenceScore.toNat).sum

/-- The commits of a choice, in the order of the repositories. -/
def commitList (problem : CompatibilityProblem) (pick : String → CommitCandidate) : List String :=
  problem.ordered.map fun repository => (pick repository).commit

/-- A choice of the highest score, and of these the one with the least commits. -/
structure IsBest (problem : CompatibilityProblem) (pick : String → CommitCandidate) : Prop
    extends IsChoice problem pick where
  highest : ∀ other, IsChoice problem other → totalScore problem other ≤ totalScore problem pick
  least : ∀ other, IsChoice problem other → totalScore problem other = totalScore problem pick →
    commitList problem pick ≤ commitList problem other

def vectorOf (problem : CompatibilityProblem) (pick : String → CommitCandidate) :
    CompatibilityVector where
  commits := problem.ordered.map fun repository => (pick repository).canonical
  evidenceScore := totalScore problem pick

theorem totalScore_eq (problem : CompatibilityProblem) (pick : String → CommitCandidate) :
    totalScore problem pick =
      (problem.ordered.map fun repository => (pick repository).evidenceScore.toNat).sum :=
  ((ordered_perm problem).symm.map _).sum_eq

theorem repository_of_mem_options
    (inside : option ∈ problem.options repository) : option.repository = repository := by
  obtain ⟨⟨listed, found, same⟩, -⟩ := find?_of_mem_options inside
  have named : listed.repository = repository ∧ listed.sortKey = option.sortKey := by
    simpa using find?_some found
  rw [← same, canonical_repository, named.1]

variable {pick : String → CommitCandidate}

theorem exists_vector_of_choice (distinct : problem.ordered.Nodup)
    (choice : IsChoice problem pick) :
    ∃ vector ∈ problem.vectors, totalScore problem pick ≤ vector.evidenceScore ∧
      canonicalCommits vector =
        problem.ordered.map fun repository => toLex (repository, (pick repository).commit) := by
  have each : ∀ repository, ∃ option, repository ∈ problem.ordered →
      option ∈ problem.options repository ∧ option.commit = (pick repository).commit ∧
        (pick repository).evidenceScore.toNat ≤ option.evidenceScore.toNat := by
    intro repository
    by_cases required : repository ∈ problem.ordered
    · have listed := choice.candidate repository (mem_ordered.1 required)
      obtain ⟨option, inside, commit, score⟩ := exists_option listed
      rw [choice.repository repository (mem_ordered.1 required)] at inside
      exact ⟨option, fun _ => ⟨inside, commit, score⟩⟩
    exact ⟨pick repository, fun inside => absurd inside required⟩
  choose option chosen using each
  have named : ∀ repository ∈ problem.ordered, (option repository).repository = repository :=
    fun repository required => repository_of_mem_options (chosen repository required).1
  refine ⟨toVector (problem.ordered.map option), mem_map_of_mem ?_, ?_, ?_⟩
  · refine (mem_explore_iff _ _).2 ⟨_, (nil_append _).symm, ?_, ?_, by simp⟩
    · refine forall₂_map_right_iff.2 (forall₂_same.2 ?_)
      exact fun repository required => (chosen repository required).1
    · rw [pairwise_map]
      refine List.Pairwise.imp_of_mem ?_ distinct
      intro first second inFirst inSecond apart
      refine (allows_iff (by rw [named first inFirst, named second inSecond]; exact apart)).2 ?_
      have compatible := choice.compatible first (mem_ordered.1 inFirst) second
        (mem_ordered.1 inSecond) apart
      refine compatible.congr ?_ (chosen first inFirst).2.1 ?_ (chosen second inSecond).2.1
      · rw [named first inFirst, choice.repository first (mem_ordered.1 inFirst)]
      rw [named second inSecond, choice.repository second (mem_ordered.1 inSecond)]
  · rw [totalScore_eq, toVector, scoreSum, map_map]
    exact sum_le_sum fun repository required => (chosen repository required).2.2
  rw [canonicalCommits, toVector, map_map]
  refine map_congr_left fun repository required => ?_
  rw [comp_apply, named repository required, (chosen repository required).2.1]

/-- Each candidate is the first one listed with its key, and has the smallest base that goes with its
commit and score. -/
structure IsFirst (problem : CompatibilityProblem) (pick : String → CommitCandidate) : Prop where
  first : ∀ repository ∈ problem.requiredRepositories,
    problem.candidates.find? (fun candidate => candidate.repository = repository ∧
      candidate.sortKey = (pick repository).sortKey) = some (pick repository)
  base : ∀ repository ∈ problem.requiredRepositories, ∀ other ∈ problem.candidates,
    other.repository = repository → other.evidenceScore = (pick repository).evidenceScore →
      other.commit = (pick repository).commit → (pick repository).baseRef ≤ other.baseRef

instance : Inhabited CommitCandidate :=
  ⟨⟨"", "", "", 0, []⟩⟩

variable {vector : CompatibilityVector}

theorem choice_of_mem_vectors (distinct : problem.ordered.Nodup) (met : vector ∈ problem.vectors) :
    ∃ pick, IsChoice problem pick ∧ IsFirst problem pick ∧ vector = vectorOf problem pick := by
  obtain ⟨chosen, inside, rfl⟩ := mem_map.1 met
  obtain ⟨tail, rfl, each, pairs, -⟩ := (mem_explore_iff _ _).1 inside
  obtain ⟨option, rfl, offered⟩ := exists_map_of_forall₂ each distinct
  have listed : ∀ repository, ∃ candidate, repository ∈ problem.ordered →
      problem.candidates.find? (fun candidate => candidate.repository = repository ∧
        candidate.sortKey = (option repository).sortKey) = some candidate ∧
      candidate.canonical = option repository := by
    intro repository
    by_cases required : repository ∈ problem.ordered
    · obtain ⟨⟨candidate, found, same⟩, -⟩ := find?_of_mem_options (offered repository required)
      exact ⟨candidate, fun _ => ⟨found, same⟩⟩
    exact ⟨option repository, fun inside => absurd inside required⟩
  choose pick picked using listed
  have same : ∀ repository ∈ problem.ordered, (pick repository).canonical = option repository :=
    fun repository required => (picked repository required).2
  have named : ∀ repository ∈ problem.ordered, (pick repository).repository = repository := by
    intro repository required
    have named := repository_of_mem_options (offered repository required)
    rwa [← same repository required] at named
  refine ⟨pick, ⟨?_, ?_, ?_⟩, ⟨?_, ?_⟩, ?_⟩
  · intro repository required
    exact mem_of_find?_eq_some (picked repository (mem_ordered.2 required)).1
  · intro repository required
    exact named repository (mem_ordered.2 required)
  · intro first inFirst second inSecond apart
    have pairwise : problem.ordered.Pairwise fun first second =>
        Compatible problem.compatiblePairs (pick first) (pick second) := by
      rw [pairwise_map] at pairs
      refine List.Pairwise.imp_of_mem ?_ (pairwise_and_iff.2 ⟨pairs, distinct⟩)
      intro first second inFirst inSecond ⟨allowed, apart⟩
      rw [← same first inFirst, ← same second inSecond] at allowed
      have compatible := (allows_iff (by
        rw [canonical_repository, canonical_repository, named first inFirst, named second inSecond]
        exact apart)).1 allowed
      exact compatible.congr rfl rfl rfl rfl
    have symmetric : Std.Symm fun first second =>
        Compatible problem.compatiblePairs (pick first) (pick second) :=
      ⟨fun _ _ compatible => compatible.symm⟩
    exact pairwise.forall (mem_ordered.2 inFirst) (mem_ordered.2 inSecond) apart
  · intro repository required
    have found := picked repository (mem_ordered.2 required)
    rw [← found.2, canonical_sortKey] at found
    exact found.1
  · intro repository required other member sameRepository score commit
    have options := (find?_of_mem_options (offered repository (mem_ordered.2 required))).2
    rw [← same repository (mem_ordered.2 required)] at options
    exact options other member sameRepository score commit
  rw [vectorOf, totalScore_eq, toVector, scoreSum, map_map]
  rw [map_congr_left same]
  congr 2
  refine map_congr_left fun repository required => ?_
  rw [comp_apply, ← same repository required, canonical_evidenceScore]

theorem canonicalCommits_vectorOf (choice : IsChoice problem pick) :
    canonicalCommits (vectorOf problem pick) =
      problem.ordered.map fun repository => toLex (repository, (pick repository).commit) := by
  rw [canonicalCommits, vectorOf, map_map]
  refine map_congr_left fun repository required => ?_
  rw [comp_apply, canonical_repository, canonical_commit,
    choice.repository repository (mem_ordered.1 required)]

theorem map_commit_lt_iff (repositories : List String) (first second : String → String) :
    (repositories.map fun repository => toLex (repository, first repository)) <
        (repositories.map fun repository => toLex (repository, second repository)) ↔
      repositories.map first < repositories.map second := by
  induction repositories with
  | nil => simp
  | cons repository rest ih =>
    rw [map_cons, map_cons, map_cons, map_cons, cons_lt_cons_iff, cons_lt_cons_iff, ih]
    simp [Prod.Lex.toLex_lt_toLex]

theorem map_commit_le_iff (repositories : List String) (first second : String → String) :
    (repositories.map fun repository => toLex (repository, first repository)) ≤
        (repositories.map fun repository => toLex (repository, second repository)) ↔
      repositories.map first ≤ repositories.map second := by
  rw [← not_lt, ← not_lt, map_commit_lt_iff]

theorem isBest_of_least (distinct : problem.ordered.Nodup) (choice : IsChoice problem pick)
    (least : ∀ vector ∈ problem.vectors, vectorKey (vectorOf problem pick) ≤ vectorKey vector) :
    IsBest problem pick := by
  refine { choice with highest := fun other chosen => ?_, least := fun other chosen same => ?_ }
  · obtain ⟨vector, met, score, -⟩ := exists_vector_of_choice distinct chosen
    refine score.trans ?_
    rcases Prod.Lex.toLex_le_toLex.1 (least vector met) with higher | ⟨equal, _⟩
    · exact (OrderDual.toDual_lt_toDual.1 higher).le
    exact (OrderDual.toDual_inj.1 equal).ge
  obtain ⟨vector, met, score, commits⟩ := exists_vector_of_choice distinct chosen
  have below := Prod.Lex.toLex_le_toLex.1 (least vector met)
  rw [commits, canonicalCommits_vectorOf choice, map_commit_le_iff] at below
  rcases below with higher | ⟨_, smaller⟩
  · have more : vector.evidenceScore < totalScore problem pick :=
      OrderDual.toDual_lt_toDual.1 higher
    omega
  exact smaller

theorem solve_sound (solved : solveCompatibilityVector problem = .ok vector) :
    ∃ pick, IsBest problem pick ∧ IsFirst problem pick ∧ vector = vectorOf problem pick := by
  rw [solve_eq] at solved
  split at solved
  · cases solved
  split at solved
  · cases solved
  rename_i repeated
  have distinct : problem.ordered.Nodup :=
    (firstRepeated_eq_none_iff (pairwise_insertionSort _ _)).1 repeated
  split at solved
  · cases solved
  split at solved
  · cases solved
  split at solved
  · cases solved
  rename_i best kept
  cases solved
  obtain ⟨origin, least, -⟩ := foldl_keep_eq_some vectorKey kept
  have met := origin.resolve_right (fun none => nomatch none)
  obtain ⟨pick, choice, first, rfl⟩ := choice_of_mem_vectors distinct met
  exact ⟨pick, isBest_of_least distinct choice least, first, rfl⟩

theorem solve_complete (nonempty : problem.requiredRepositories ≠ [])
    (distinct : problem.requiredRepositories.Nodup) (inside : ∀ candidate ∈ problem.candidates,
      candidate.repository ∈ problem.requiredRepositories) (choice : IsChoice problem pick) :
    ∃ vector, solveCompatibilityVector problem = .ok vector := by
  have orderedDistinct : problem.ordered.Nodup := (ordered_perm problem).nodup_iff.2 distinct
  have repeated : firstRepeated problem.ordered = none :=
    (firstRepeated_eq_none_iff (pairwise_insertionSort _ _)).2 orderedDistinct
  have noOutside : (problem.candidates.find? fun candidate =>
      candidate.repository ∉ problem.ordered) = none := by
    rw [find?_eq_none]
    intro candidate listed
    simpa [mem_ordered] using inside candidate listed
  have noMissing : (problem.ordered.find? fun repository => problem.group repository = []) = none := by
    rw [find?_eq_none]
    intro repository required
    have listed := choice.candidate repository (mem_ordered.1 required)
    have named := choice.repository repository (mem_ordered.1 required)
    have member : pick repository ∈ problem.group repository :=
      mem_filter.2 ⟨listed, decide_eq_true named⟩
    simpa using ne_nil_of_mem member
  obtain ⟨vector, met, -⟩ := exists_vector_of_choice orderedDistinct choice
  rw [solve_eq, if_neg nonempty, repeated, noOutside, noMissing]
  simp only
  cases kept : problem.vectors.foldl (keep vectorKey) none with
  | some best => exact ⟨best, rfl⟩
  | none =>
    have empty := ((foldl_keep_eq_none_iff vectorKey).1 kept).1
    rw [empty] at met
    cases met

/-- The solver is sound, complete and optimal: it returns a vector exactly when some repository is
required and some choice is compatible, and the vector is such a choice with the highest score, and
among those with the least list of commits. -/
theorem solve_correct (problem : CompatibilityProblem)
    (distinct : problem.requiredRepositories.Nodup) (inside : ∀ candidate ∈ problem.candidates,
      candidate.repository ∈ problem.requiredRepositories) :
    ((∃ vector, solveCompatibilityVector problem = .ok vector) ↔
      problem.requiredRepositories ≠ [] ∧ ∃ pick, IsChoice problem pick) ∧
    ∀ vector, solveCompatibilityVector problem = .ok vector → ∃ pick, IsBest problem pick ∧
        vector.commits = (problem.requiredRepositories.insertionSort (· ≤ ·)).map
          (fun repository => (pick repository).canonical) ∧
        vector.evidenceScore = totalScore problem pick := by
  refine ⟨⟨?_, fun ⟨nonempty, pick, choice⟩ => solve_complete nonempty distinct inside choice⟩, ?_⟩
  · intro ⟨vector, solved⟩
    obtain ⟨pick, best, -⟩ := solve_sound solved
    refine ⟨fun empty => ?_, pick, best.toIsChoice⟩
    rw [solve_eq, if_pos empty] at solved
    cases solved
  · intro vector solved
    obtain ⟨pick, best, -, rfl⟩ := solve_sound solved
    exact ⟨pick, best, rfl, rfl⟩

/-- The score of a vector is within a `u64` for up to `2 ^ 32` repositories. -/
theorem solve_score_lt {problem : CompatibilityProblem} {vector : CompatibilityVector}
    (few : problem.requiredRepositories.length ≤ 2 ^ 32)
    (solved : solveCompatibilityVector problem = .ok vector) : vector.evidenceScore < 2 ^ 64 := by
  obtain ⟨pick, _, -, rfl⟩ := solve_sound solved
  have each : totalScore problem pick ≤
      (problem.requiredRepositories.map fun _ => 2 ^ 32 - 1).sum := by
    refine sum_le_sum fun repository _ => ?_
    exact Nat.le_sub_one_of_lt (pick repository).evidenceScore.toNat_lt
  rw [map_const', sum_replicate, smul_eq_mul] at each
  change totalScore problem pick < 2 ^ 64
  calc totalScore problem pick
      ≤ problem.requiredRepositories.length * (2 ^ 32 - 1) := each
    _ ≤ 2 ^ 32 * (2 ^ 32 - 1) := Nat.mul_le_mul_right _ few
    _ < 2 ^ 64 := by decide

def sampleProblem : CompatibilityProblem where
  requiredRepositories := ["orders-api", "billing-sdk"]
  candidates :=
    [{ repository := "orders-api", baseRef := "main", commit := "orders-new", evidenceScore := 100,
       evidence := ["ci"] },
     { repository := "billing-sdk", baseRef := "main", commit := "billing-new", evidenceScore := 100,
       evidence := ["ci"] },
     { repository := "billing-sdk", baseRef := "main", commit := "billing-stable",
       evidenceScore := 90, evidence := ["ci"] }]
  compatiblePairs :=
    [{ leftRepository := "orders-api", leftCommit := "orders-new", rightRepository := "billing-sdk",
       rightCommit := "billing-stable", evidence := ["integration-ci"] }]

theorem solve_correct_sample :
    ∃ vector, solveCompatibilityVector sampleProblem = .ok vector ∧ vector.evidenceScore = 190 ∧
      ∃ pick, IsBest sampleProblem pick ∧ vector.evidenceScore = totalScore sampleProblem pick := by
  have correct := solve_correct sampleProblem (by decide) (by decide)
  have scored : (solveCompatibilityVector sampleProblem).toOption.map (·.evidenceScore) =
      some 190 := by decide +kernel
  cases solved : solveCompatibilityVector sampleProblem with
  | error error =>
    rw [solved] at scored
    cases scored
  | ok vector =>
    rw [solved] at scored
    obtain ⟨pick, best, -, score⟩ := correct.2 vector solved
    exact ⟨vector, rfl, Option.some.inj scored, pick, best, score⟩

/-- Without required repositories the empty choice is compatible, but the solver refuses. -/
theorem solve_empty_problem :
    ¬∀ problem : CompatibilityProblem, problem.requiredRepositories.Nodup →
      (∀ candidate ∈ problem.candidates, candidate.repository ∈ problem.requiredRepositories) →
      (∀ repository ∈ problem.requiredRepositories,
        ∃ candidate ∈ problem.candidates, candidate.repository = repository) →
      ((∃ vector, solveCompatibilityVector problem = .ok vector) ↔ ∃ pick, IsChoice problem pick) := by
  intro complete
  have chosen : ∃ pick, IsChoice ⟨[], [], []⟩ pick :=
    ⟨fun _ => default, by simp, by simp, by simp⟩
  obtain ⟨vector, solved⟩ := (complete ⟨[], [], []⟩ nodup_nil (by simp) (by simp)).2 chosen
  cases solved

end Wts.Compatibility
