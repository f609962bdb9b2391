/-
Module: Wts.Proofs.BoundaryRevision
Purpose: Authority along a chain of revisions.
Trusted boundary: none
Main exports: stale_across_revisions
-/
import Wts.Proofs.BoundaryDigest

namespace Wts.Core

open Text EntryMap List WorkspaceBoundary

/-- A compiled boundary followed by its revisions, the newest first. -/
inductive RevisionHistory : List WorkspaceBoundary → Prop where
  | compiled {draft : BoundaryDraft} {occupiedPorts : Finset UInt16} {boundary : WorkspaceBoundary}
      (done : compile draft occupiedPorts = .ok boundary) : RevisionHistory [boundary]
  | revised {draft : BoundaryDraft} {occupiedPorts : Finset UInt16}
      {earlier boundary : WorkspaceBoundary} {before : List WorkspaceBoundary}
      (history : RevisionHistory (earlier :: before))
      (done : earlier.revise draft occupiedPorts = .ok boundary) :
      RevisionHistory (boundary :: earlier :: before)

variable {history : List WorkspaceBoundary}

theorem RevisionHistory.obtained
    (chain : RevisionHistory history) : ∀ boundary ∈ history, Obtained boundary := by
  induction chain with
  | compiled done =>
    intro boundary member
    rw [mem_singleton] at member
    exact member ▸ .compiled done
  | revised history done ih =>
    intro boundary member
    rcases mem_cons.1 member with rfl | inside
    · exact .revised (ih _ mem_cons_self) done
    exact ih boundary inside

theorem RevisionHistory.parent_mem {newest : WorkspaceBoundary} {before : List WorkspaceBoundary}
    (chain : RevisionHistory (newest :: before)) {boundary : WorkspaceBoundary}
    (member : boundary ∈ newest :: before) {digest : String}
    (parent : boundary.parentDigest = some digest) : digest ∈ before.map (·.digest) := by
  generalize whole : newest :: before = history at chain member
  induction chain generalizing newest before with
  | compiled done =>
    obtain ⟨_, leases, _, rfl⟩ := compile_eq_ok_iff.1 done
    rw [mem_singleton] at member
    rw [member] at parent
    cases parent
  | revised history done ih =>
    simp only [List.cons.injEq] at whole
    obtain ⟨rfl, rfl⟩ := whole
    rcases mem_cons.1 member with rfl | inside
    · obtain ⟨compiled, _, rfl⟩ := revise_eq_ok_iff.1 done
      cases parent
      exact mem_cons_self
    exact mem_cons_of_mem _ (ih rfl inside)

variable {first second : WorkspaceBoundary}

theorem parentDigest_eq_of_boundaryParts_eq (isSealed : Sealed first) (isSealed' : Sealed second)
    (same : boundaryParts first = boundaryParts second) :
    first.parentDigest = second.parentDigest := by
  have entries := boundaryParts_eq_iff.1 same "parent"
  rw [lastValue_scalar first (by decide), lastValue_scalar second (by decide)] at entries
  exact parentDigest_eq isSealed.parent isSealed'.parent (Option.some.inj entries)

/-- The messages hashed along a chain of revisions. -/
def digestMessages (history : List WorkspaceBoundary) : List (List UInt8) :=
  history.map fun boundary => partsMessage (boundaryParts boundary)

theorem parentDigest_eq_of_digest_eq
    (chain : RevisionHistory history) (free : CollisionFree (digestMessages history))
    (framed : ∀ boundary ∈ history, Framed boundary)
    (member : first ∈ history) (member' : second ∈ history) (same : first.digest = second.digest) :
    first.parentDigest = second.parentDigest := by
  have isSealed := (chain.obtained first member).isSealed
  have isSealed' := (chain.obtained second member').isSealed
  rw [isSealed.digest, isSealed'.digest] at same
  apply parentDigest_eq_of_boundaryParts_eq isSealed isSealed'
  apply digestParts_inj _ _ _ same
  · exact free _ (mem_map_of_mem member) _ (mem_map_of_mem member')
  · exact fun part inside => framed first member part (mem_append_left _ inside)
  exact fun part inside => framed second member' part (mem_append_left _ inside)

theorem digests_nodup (chain : RevisionHistory history)
    (free : CollisionFree (digestMessages history))
    (framed : ∀ boundary ∈ history, Framed boundary) : (history.map (·.digest)).Nodup := by
  induction chain with
  | compiled done => exact nodup_singleton _
  | @revised draft occupiedPorts earlier boundary before history done ih =>
    have distinct := ih (free.subset fun message member => mem_cons_of_mem _ member)
      (fun other member => framed other (mem_cons_of_mem _ member))
    rw [map_cons, nodup_cons]
    refine ⟨?_, distinct⟩
    intro again
    obtain ⟨other, inside, same⟩ := mem_map.1 again
    have parent := parentDigest_eq_of_digest_eq (history.revised done) free framed
      (mem_cons_of_mem _ inside) mem_cons_self same
    -- the older boundary would have the previous digest as its parent, before that digest existed
    obtain ⟨compiled, _, rfl⟩ := revise_eq_ok_iff.1 done
    exact (nodup_cons.1 distinct).1 (history.parent_mem inside parent)

/-- The digests of a chain are pairwise distinct, and an action authored against one of its
boundaries is stale for every other one. -/
theorem stale_across_revisions {history : List WorkspaceBoundary} (chain : RevisionHistory history)
    (free : CollisionFree (digestMessages history))
    (framed : ∀ boundary ∈ history, Framed boundary) : (history.map (·.digest)).Nodup ∧
      ∀ (i j : ℕ) (hi : i < history.length) (hj : j < history.length), i ≠ j →
        ∀ (effect : Effect) (resource : String), history[j].verify
              { boundaryDigest := history[i].digest, effect := effect, resource := resource } =
            .error .staleBoundary := by
  have distinct := digests_nodup chain free framed
  refine ⟨distinct, ?_⟩
  intro i j hi hj apart effect resource
  have different : history[i].digest ≠ history[j].digest := by
    intro same
    apply apart
    have inside : i < (history.map (·.digest)).length := by simpa using hi
    have inside' : j < (history.map (·.digest)).length := by simpa using hj
    have equal : (history.map (·.digest))[i] = (history.map (·.digest))[j] := by
      rw [getElem_map, getElem_map]
      exact same
    exact distinct.getElem_inj_iff.1 equal
  rw [WorkspaceBoundary.verify, if_pos different]

def restoredHistory : List WorkspaceBoundary :=
  let first := evidenceBoundary ["lexical"]
  let second := { first with revision := first.revision + 1, parentDigest := some first.digest }
  [{ second with digest := computeDigest second }, first]

theorem revisionHistory_restoredHistory : RevisionHistory restoredHistory := by
  have compiled := compile_evidenceDraft ["lexical"]
  exact .revised (.compiled compiled) (revise_eq_ok_iff.2 ⟨_, compiled, rfl⟩)

set_option maxRecDepth 10000 in
/-- A revision that restores the draft of its parent gets a digest of its own. -/
theorem stale_across_restored : (restoredHistory.map (·.digest)).Nodup ∧
      ∀ (i j : ℕ) (hi : i < restoredHistory.length) (hj : j < restoredHistory.length), i ≠ j →
        ∀ (effect : Effect) (resource : String), restoredHistory[j].verify
              { boundaryDigest := restoredHistory[i].digest, effect := effect,
                resource := resource } =
            .error .staleBoundary := by
  refine stale_across_revisions revisionHistory_restoredHistory ?_ ?_
  · apply collisionFree_of_nodup
    decide +kernel
  · unfold Framed
    decide +kernel

end Wts.Core
