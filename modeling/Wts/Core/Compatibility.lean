/-
Module: Wts.Core.Compatibility
Purpose: The selection of one commit for each required repository.
-/
import Wts.Library.Text

namespace Wts.Compatibility

open Text
open Std (ExtTreeMap)

structure CommitCandidate where
  repository : String
  baseRef : String
  commit : String
  evidenceScore : UInt32
  evidence : List String
deriving DecidableEq

structure CompatiblePair where
  leftRepository : String
  leftCommit : String
  rightRepository : String
  rightCommit : String
  evidence : List String

structure CompatibilityProblem where
  requiredRepositories : List String
  candidates : List CommitCandidate
  compatiblePairs : List CompatiblePair

structure CompatibilityVector where
  commits : List CommitCandidate
  evidenceScore : ℕ
deriving DecidableEq

inductive CompatibilityError where
  | emptyProblem
  | duplicateRepository (repository : String)
  | missingCandidates (repository : String)
  | candidateOutsideClosure (repository commit : String)
  | noCompatibleVector
deriving DecidableEq

/-- Two repositories with their commits, the smaller repository first. -/
def canonicalPair (pair : CompatiblePair) : String × String × String × String :=
  if pair.leftRepository ≤ pair.rightRepository then
    (pair.leftRepository, pair.leftCommit, pair.rightRepository, pair.rightCommit)
  else
    (pair.rightRepository, pair.rightCommit, pair.leftRepository, pair.leftCommit)

def canonicalCandidatePair (left right : CommitCandidate) : String × String × String × String :=
  if left.repository ≤ right.repository then
    (left.repository, left.commit, right.repository, right.commit)
  else
    (right.repository, right.commit, left.repository, left.commit)

structure CompatibilityConstraints where
  constrainedRepositoryPairs : List (String × String)
  allowedCommitPairs : List (String × String × String × String)

def CompatibilityConstraints.new (pairs : List CompatiblePair) : CompatibilityConstraints where
  constrainedRepositoryPairs := pairs.map fun pair =>
    let (leftRepository, _, rightRepository, _) := canonicalPair pair
    (leftRepository, rightRepository)
  allowedCommitPairs := pairs.map canonicalPair

/-- Once a pair of two repositories is declared, only the listed commits of them go together. -/
def CompatibilityConstraints.allows (constraints : CompatibilityConstraints)
    (left right : CommitCandidate) : Bool :=
  let (leftRepository, leftCommit, rightRepository, rightCommit) := canonicalCandidatePair left right
  if (leftRepository, rightRepository) ∉ constraints.constrainedRepositoryPairs then
    true
  else
    (leftRepository, leftCommit, rightRepository, rightCommit) ∈ constraints.allowedCommitPairs

/-- `evidence.sort(); evidence.dedup()`. -/
def CommitCandidate.canonical (candidate : CommitCandidate) : CommitCandidate :=
  { candidate with evidence := sortDedup candidate.evidence }

/-- The sort key of a candidate: a higher score comes first, then the commit and the base decide. -/
def CommitCandidate.sortKey (candidate : CommitCandidate) : ℕᵒᵈ ×ₗ String ×ₗ String :=
  toLex (OrderDual.toDual candidate.evidenceScore.toNat, toLex (candidate.commit, candidate.baseRef))

/-- `sort_by` and then `dedup_by` on the commit. -/
def distinctCommits (candidates : List CommitCandidate) : List CommitCandidate :=
  (candidates.insertionSort fun left right => left.sortKey ≤ right.sortKey).destutter
    fun left right => left.commit ≠ right.commit

/-- The loop that collects the candidates of each required repository. -/
def groupCandidates (required : List String) :
    List CommitCandidate → ExtTreeMap String (List CommitCandidate) →
      Except CompatibilityError (ExtTreeMap String (List CommitCandidate))
  | [], groups => .ok groups
  | candidate :: rest, groups =>
    if candidate.repository ∉ required then
      .error (.candidateOutsideClosure candidate.repository candidate.commit)
    else
      groupCandidates required rest
        (groups.insert candidate.repository
          ((groups[candidate.repository]?).getD [] ++ [candidate.canonical]))

/-- The loop that sorts and merges the candidates of each required repository. -/
def sortGroups :
    List String → ExtTreeMap String (List CommitCandidate) →
      Except CompatibilityError (ExtTreeMap String (List CommitCandidate))
  | [], groups => .ok groups
  | repository :: rest, groups =>
    match groups[repository]? with
    | none => .error (.missingCandidates repository)
    | some candidates => sortGroups rest (groups.insert repository (distinctCommits candidates))

def canonicalCommits (vector : CompatibilityVector) : List (String ×ₗ String) :=
  vector.commits.map fun candidate => toLex (candidate.repository, candidate.commit)

def isBetter (candidate : CompatibilityVector) (current : Option CompatibilityVector) : Bool :=
  match current with
  | none => true
  | some current =>
    candidate.evidenceScore > current.evidenceScore ||
      (candidate.evidenceScore = current.evidenceScore &&
        canonicalCommits candidate < canonicalCommits current)

/-- The search for the remaining repositories, with the best vector so far. -/
def search (candidates : ExtTreeMap String (List CommitCandidate))
    (constraints : CompatibilityConstraints) :
    List String → List CommitCandidate → ℕ → Option CompatibilityVector → Option CompatibilityVector
  | [], chosen, score, best =>
    let vector : CompatibilityVector := { commits := chosen, evidenceScore := score }
    if isBetter vector best then some vector else best
  | repository :: rest, chosen, score, best =>
    match candidates[repository]? with
    | none => best
    | some options =>
      options.foldl
        (fun best candidate =>
          if chosen.all fun existing => constraints.allows existing candidate then
            search candidates constraints rest (chosen ++ [candidate])
              (score + candidate.evidenceScore.toNat) best
          else
            best)
        best

/-- The first repository that equals its neighbour, as the loop over `windows(2)` finds it. -/
def firstRepeated : List String → Option String
  | first :: second :: rest => if first = second then some first else firstRepeated (second :: rest)
  | _ => none

def solveCompatibilityVector (problem : CompatibilityProblem) :
    Except CompatibilityError CompatibilityVector :=
  if problem.requiredRepositories = [] then
    .error .emptyProblem
  else
    let required := problem.requiredRepositories.insertionSort (· ≤ ·)
    match firstRepeated required with
    | some repository => .error (.duplicateRepository repository)
    | none => do
      let groups ← groupCandidates required problem.candidates ∅
      let candidates ← sortGroups required groups
      let constraints := CompatibilityConstraints.new problem.compatiblePairs
      match search candidates constraints required [] 0 none with
      | none => .error .noCompatibleVector
      | some best => .ok best

end Wts.Compatibility
