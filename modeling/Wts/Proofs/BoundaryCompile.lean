/-
Module: Wts.Proofs.BoundaryCompile
Purpose: What a successful compilation is.
Trusted boundary: none
Main exports: compile_eq_ok_iff, sameResult_iff
-/
import Wts.Core.Boundary
import Wts.Library.FirstFit
import Wts.Library.StableSort

namespace Wts.Core

open List Text FirstFit

def portSlots (ports : Finset UInt16) : Finset ℕ :=
  ports.image UInt16.toNat

def defaultSlots (services : List ServiceSpec) : List ℕ :=
  services.map fun service => service.defaultPort.toNat

def maxPort : ℕ := 65535

theorem defaultSlots_le (services : List ServiceSpec) : ∀ slot ∈ defaultSlots services,
    slot ≤ maxPort := by
  intro slot member
  obtain ⟨service, _, rfl⟩ := mem_map.1 member
  have := service.defaultPort.toNat_lt
  simp only [maxPort]
  omega

theorem mem_portSlots_ofNat {ports : Finset UInt16} {slot : ℕ} (small : slot ≤ maxPort) :
    slot ∈ portSlots ports ↔ UInt16.ofNat slot ∈ ports := by
  have value : (UInt16.ofNat slot).toNat = slot := by
    simp only [maxPort] at small
    simp only [UInt16.toNat_ofNat']
    omega
  simp only [portSlots, Finset.mem_image]
  constructor
  · rintro ⟨port, member, rfl⟩
    rwa [UInt16.ofNat_toNat]
  intro member
  exact ⟨_, member, value⟩

theorem portSlots_insert {ports : Finset UInt16} {slot : ℕ} (small : slot ≤ maxPort) :
    portSlots (insert (UInt16.ofNat slot) ports) = insert slot (portSlots ports) := by
  have value : (UInt16.ofNat slot).toNat = slot := by
    simp only [maxPort] at small
    simp only [UInt16.toNat_ofNat']
    omega
  rw [portSlots, Finset.image_insert, value]
  rfl

theorem findLoopbackPort_eq (reserved : Finset UInt16) (defaultPort : UInt16) :
    findLoopbackPort reserved defaultPort =
      (firstFree maxPort (portSlots reserved) defaultPort.toNat).map UInt16.ofNat := by
  rw [findLoopbackPort, find?_map, firstFree]
  congr 1
  apply find?_congr
  intro slot member
  rw [mem_range'_1] at member
  have := defaultPort.toNat_lt
  have small : slot ≤ maxPort := by
    simp only [maxPort, UInt16.size] at *
    omega
  simp [mem_portSlots_ofNat small]

def leaseFor (networkNamespace : String) (service : ServiceSpec) (slot : ℕ) : RuntimeLease where
  serviceId := service.id
  loopbackPort := UInt16.ofNat slot
  hostname := slug service.id ++ "." ++ networkNamespace ++ ".wts"
  networkNamespace := networkNamespace

theorem leaseServices_eq_ok_iff {networkNamespace : String} {services : List ServiceSpec}
    {reserved : Finset UInt16} {leases : List RuntimeLease} :
    leaseServices networkNamespace services reserved = .ok leases ↔ ∃ slots final,
        allocate maxPort (defaultSlots services) (portSlots reserved) = some (slots, final) ∧
          leases = List.zipWith (leaseFor networkNamespace) services slots := by
  induction services generalizing reserved leases with
  | nil =>
    simp only [leaseServices, Except.ok.injEq, defaultSlots, map_nil, allocate,
      Option.some.injEq, Prod.mk.injEq]
    constructor
    · rintro rfl
      exact ⟨[], _, ⟨rfl, rfl⟩, rfl⟩
    rintro ⟨slots, final, ⟨rfl, _⟩, rfl⟩
    rfl
  | cons service rest ih =>
    rw [leaseServices, findLoopbackPort_eq]
    have slotsCons : defaultSlots (service :: rest) =
        service.defaultPort.toNat :: defaultSlots rest := rfl
    rw [slotsCons]
    cases served : firstFree maxPort (portSlots reserved) service.defaultPort.toNat with
    | none =>
      simp only [Option.map_none, reduceCtorEq, false_iff, not_exists, not_and]
      intro slots final done
      obtain ⟨slot, _, found, _⟩ := allocate_cons_eq_some.1 done
      rw [served] at found
      cases found
    | some slot =>
      have small := (firstFree_eq_some_iff.1 served).2.1
      simp only [Option.map_some]
      constructor
      · intro done
        cases later : leaseServices networkNamespace rest (insert (UInt16.ofNat slot) reserved) with
        | error error => simp [later] at done
        | ok leases' =>
          obtain ⟨slots, final, allocated, rfl⟩ := ih.1 later
          rw [portSlots_insert small] at allocated
          simp only [later, Except.ok.injEq] at done
          refine ⟨slot :: slots, final, ?_, by rw [← done]; rfl⟩
          exact allocate_cons_eq_some.2 ⟨slot, slots, served, allocated, rfl⟩
      rintro ⟨slots, final, allocated, rfl⟩
      obtain ⟨slot', slots', found, others, rfl⟩ :=
        allocate_cons_eq_some.1 allocated
      rw [served, Option.some.injEq] at found
      subst found
      rw [← portSlots_insert small] at others
      have later := ih.2 ⟨slots', final, others, rfl⟩
      simp [later, leaseFor]

/-! ### Compilation as a whole -/

/-- The checks of a draft that do not concern ports. -/
structure Admissible (draft : BoundaryDraft) : Prop where
  issue : trim draft.issueKey ≠ ""
  scope : draft.repositories ≠ []
  names : (draft.repositories.map (·.name)).Nodup
  services : ∀ service ∈ draft.services, service.repository ∈ draft.repositories.map (·.name)

/-- The boundary of a draft with these leases. -/
def assemble (draft : BoundaryDraft) (leases : List RuntimeLease) : WorkspaceBoundary :=
  let issueKey := canonicalIssueKey draft.issueKey
  let repositories := canonicalRepositories draft.repositories
  let boundary : WorkspaceBoundary :=
    { issueKey := issueKey
      revision := 1
      parentDigest := none
      baseGraphDigest := draft.baseGraphDigest
      overlayDigest := digestParts (overlayParts issueKey draft.baseGraphDigest repositories)
      repositories := repositories
      runtimeLeases := leases
      capabilities := boundaryCapabilities issueKey leases
      digest := "" }
  { boundary with digest := computeDigest boundary }

theorem map_name_canonicalRepositories (repositories : List RepositoryPin) :
    (canonicalRepositories repositories).map (·.name) =
      (sortRepositories repositories).map (·.name) := by
  simp [canonicalRepositories]

theorem canonicalRepositories_names_perm (repositories : List RepositoryPin) :
    ((canonicalRepositories repositories).map (·.name)).Perm (repositories.map (·.name)) := by
  rw [map_name_canonicalRepositories]
  exact (perm_insertionSort _ _).map _

theorem canonicalRepositories_sorted (repositories : List RepositoryPin) :
    (canonicalRepositories repositories).Pairwise fun a b => a.name ≤ b.name := by
  rw [canonicalRepositories, pairwise_map]
  exact pairwise_insertionSort (fun a b : RepositoryPin => a.name ≤ b.name) _

theorem firstDuplicateName_eq_none_iff {repositories : List RepositoryPin}
    (sorted : repositories.Pairwise fun a b => a.name ≤ b.name) :
    firstDuplicateName repositories = none ↔ (repositories.map (·.name)).Nodup := by
  induction repositories with
  | nil => simp [firstDuplicateName]
  | cons first rest ih =>
    cases rest with
    | nil => simp [firstDuplicateName]
    | cons second rest =>
      obtain ⟨head, tail⟩ := pairwise_cons.1 sorted
      rw [firstDuplicateName]
      by_cases same : first.name = second.name
      · simp [same]
      rw [if_neg same, ih tail]
      -- the first name is below the second, and the second is least among the rest
      have fresh : first.name ∉ (second :: rest).map (·.name) := by
        intro member
        obtain ⟨other, inside, equal⟩ := mem_map.1 member
        have least : second.name ≤ other.name := by
          rcases mem_cons.1 inside with rfl | inRest
          · exact le_refl _
          exact (pairwise_cons.1 tail).1 other inRest
        exact same (le_antisymm (head second (by simp)) (least.trans_eq equal))
      exact ⟨fun distinct => nodup_cons.2 ⟨fresh, distinct⟩,
        fun distinct => (nodup_cons.1 distinct).2⟩

theorem mem_sortServices {services : List ServiceSpec} {service : ServiceSpec} :
    service ∈ sortServices services ↔ service ∈ services :=
  mem_insertionSort _

/-- When a draft compiles, and to what. -/
theorem compile_eq_ok_iff {draft : BoundaryDraft} {occupiedPorts : Finset UInt16}
    {boundary : WorkspaceBoundary} : compile draft occupiedPorts = .ok boundary ↔
      Admissible draft ∧ ∃ leases,
        leaseServices (slug (canonicalIssueKey draft.issueKey)) (sortServices draft.services)
            occupiedPorts = .ok leases ∧ boundary = assemble draft leases := by
  have names := firstDuplicateName_eq_none_iff (canonicalRepositories_sorted draft.repositories)
  rw [(canonicalRepositories_names_perm draft.repositories).nodup_iff] at names
  have scope : (sortServices draft.services).find? (fun service =>
      service.repository ∉ (canonicalRepositories draft.repositories).map (·.name)) = none ↔
        ∀ service ∈ draft.services, service.repository ∈ draft.repositories.map (·.name) := by
    simp only [find?_eq_none, mem_sortServices, decide_eq_true_eq, not_not,
      (canonicalRepositories_names_perm draft.repositories).mem_iff]
  rw [compile]
  split
  · rename_i blank
    simp only [reduceCtorEq, false_iff, not_and]
    exact fun admissible => absurd blank admissible.issue
  rename_i issue
  split
  · rename_i empty
    simp only [reduceCtorEq, false_iff, not_and]
    exact fun admissible => absurd empty admissible.scope
  rename_i nonempty
  dsimp only
  split
  · rename_i name duplicate
    simp only [reduceCtorEq, false_iff, not_and]
    intro admissible
    rw [names.2 admissible.names] at duplicate
    cases duplicate
  rename_i unique
  split
  · rename_i service outside
    simp only [reduceCtorEq, false_iff, not_and]
    intro admissible
    rw [scope.2 admissible.services] at outside
    cases outside
  rename_i inside
  have admissible : Admissible draft :=
    { issue := issue, scope := nonempty, names := names.1 unique, services := scope.1 inside }
  constructor
  · intro done
    refine ⟨admissible, ?_⟩
    split at done
    · cases done
    rename_i leases leased
    exact ⟨leases, leased, (Except.ok.inj done).symm⟩
  rintro ⟨_, leases, leased, rfl⟩
  rw [leased]
  rfl

/-- Two results agree: the same boundary, or an error in both cases. -/
def SameResult : Except BoundaryError WorkspaceBoundary → Except BoundaryError WorkspaceBoundary →
    Prop
  | .ok first, .ok second => first = second
  | .error _, .error _ => True
  | _, _ => False

theorem sameResult_iff {first second : Except BoundaryError WorkspaceBoundary} :
    SameResult first second ↔ ∀ boundary, first = .ok boundary ↔ second = .ok boundary := by
  cases first with
  | error e =>
    cases second with
    | error e' => simp [SameResult]
    | ok b => simp [SameResult]
  | ok a =>
    cases second with
    | error e' => simp [SameResult]
    | ok b =>
      simp only [SameResult, Except.ok.injEq]
      constructor
      · rintro rfl boundary
        rfl
      intro same
      exact (same b).2 rfl

end Wts.Core
