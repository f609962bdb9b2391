/-
Module: Wts.Proofs.BoundaryOrder
Purpose: How far compilation depends on the order of the lists of a draft.
Trusted boundary: none
Main exports: compile_reordered_iff
-/
import Wts.Proofs.BoundaryCompile

namespace Wts.Core

open List Text FirstFit Function StableSort

/-- The same repository with its evidence in another order. -/
structure RepositoryPin.Reordered (first second : RepositoryPin) : Prop where
  name : first.name = second.name
  baseRef : first.baseRef = second.baseRef
  baseCommit : first.baseCommit = second.baseCommit
  relevance : first.relevanceBasisPoints = second.relevanceBasisPoints
  evidence : first.evidence.Perm second.evidence

/-- The same service with its dependencies in another order. -/
structure ServiceSpec.Reordered (first second : ServiceSpec) : Prop where
  id : first.id = second.id
  repository : first.repository = second.repository
  defaultPort : first.defaultPort = second.defaultPort
  dependsOn : first.dependsOn.Perm second.dependsOn

/-- Two drafts that differ only in the order of repositories, services, evidence or dependencies. -/
structure BoundaryDraft.Reordered (first second : BoundaryDraft) : Prop where
  issueKey : first.issueKey = second.issueKey
  baseGraphDigest : first.baseGraphDigest = second.baseGraphDigest
  repositories : ∃ middle, first.repositories.Perm middle ∧
    List.Forall₂ RepositoryPin.Reordered middle second.repositories
  services : ∃ middle, first.services.Perm middle ∧
    List.Forall₂ ServiceSpec.Reordered middle second.services

theorem RepositoryPin.Reordered.refl (repository : RepositoryPin) :
    repository.Reordered repository :=
  ⟨rfl, rfl, rfl, rfl, .refl _⟩

theorem ServiceSpec.Reordered.refl (service : ServiceSpec) : service.Reordered service :=
  ⟨rfl, rfl, rfl, .refl _⟩

def canonicalEvidence (repository : RepositoryPin) : RepositoryPin :=
  { repository with evidence := sortDedup repository.evidence }

def bareService (service : ServiceSpec) : ServiceSpec :=
  { service with dependsOn := [] }

theorem RepositoryPin.Reordered.canonicalEvidence_eq {first second : RepositoryPin}
    (reordered : first.Reordered second) : canonicalEvidence first = canonicalEvidence second := by
  cases first
  cases second
  obtain ⟨rfl, rfl, rfl, rfl, evidence⟩ := reordered
  simp only [canonicalEvidence, sortDedup, insertionSort_eq_of_perm evidence]

theorem ServiceSpec.Reordered.bareService_eq {first second : ServiceSpec}
    (reordered : first.Reordered second) : bareService first = bareService second := by
  cases first
  cases second
  obtain ⟨rfl, rfl, rfl, _⟩ := reordered
  rfl

theorem map_eq_of_forall₂ {α β : Type} {R : α → α → Prop} {f : α → β}
    (respects : ∀ a b, R a b → f a = f b) {first second : List α}
    (related : List.Forall₂ R first second) : first.map f = second.map f := by
  induction related with
  | nil => rfl
  | cons head _ ih => rw [map_cons, map_cons, respects _ _ head, ih]

variable {first second draft : BoundaryDraft}

theorem BoundaryDraft.Reordered.map_repositories (reordered : first.Reordered second) :
    (first.repositories.map canonicalEvidence).Perm
      (second.repositories.map canonicalEvidence) := by
  obtain ⟨middle, shuffled, related⟩ := reordered.repositories
  rw [← map_eq_of_forall₂ (fun _ _ h => h.canonicalEvidence_eq) related]
  exact shuffled.map _

theorem BoundaryDraft.Reordered.map_services (reordered : first.Reordered second) :
    (first.services.map bareService).Perm (second.services.map bareService) := by
  obtain ⟨middle, shuffled, related⟩ := reordered.services
  rw [← map_eq_of_forall₂ (fun _ _ h => h.bareService_eq) related]
  exact shuffled.map _

theorem defaultSlots_bareService (services : List ServiceSpec) :
    defaultSlots (services.map bareService) = defaultSlots services := by
  simp [defaultSlots, bareService, comp_def]

theorem BoundaryDraft.Reordered.defaultSlots_perm (reordered : first.Reordered second) :
    (defaultSlots first.services).Perm (defaultSlots second.services) := by
  rw [← defaultSlots_bareService first.services, ← defaultSlots_bareService second.services]
  exact reordered.map_services.map _

theorem BoundaryDraft.Reordered.names_perm (reordered : first.Reordered second) :
    (first.repositories.map (·.name)).Perm (second.repositories.map (·.name)) := by
  have := reordered.map_repositories.map (·.name)
  simpa [canonicalEvidence, comp_def] using this

theorem BoundaryDraft.Reordered.admissible_iff
    (reordered : first.Reordered second) : Admissible first ↔ Admissible second := by
  have names := reordered.names_perm
  have places : (first.services.map (·.repository)).Perm (second.services.map (·.repository)) := by
    have := reordered.map_services.map (·.repository)
    simpa [bareService, comp_def] using this
  have inScope : ∀ draft : BoundaryDraft,
      (∀ service ∈ draft.services, service.repository ∈ draft.repositories.map (·.name)) ↔
        ∀ place ∈ draft.services.map (·.repository), place ∈ draft.repositories.map (·.name) := by
    intro draft
    simp
  have empty : first.repositories = [] ↔ second.repositories = [] := by
    rw [← map_eq_nil_iff (f := (·.name)), ← map_eq_nil_iff (f := (·.name)) (l := second.repositories)]
    exact ⟨fun h => by rw [h] at names; exact names.symm.eq_nil,
      fun h => by rw [h] at names; exact names.eq_nil⟩
  constructor
  · rintro ⟨issue, scope, distinct, services⟩
    refine ⟨reordered.issueKey ▸ issue, fun h => scope (empty.2 h), names.nodup_iff.1 distinct, ?_⟩
    rw [inScope] at services ⊢
    intro place member
    exact names.mem_iff.1 (services place (places.mem_iff.2 member))
  rintro ⟨issue, scope, distinct, services⟩
  refine ⟨reordered.issueKey ▸ issue, fun h => scope (empty.1 h), names.nodup_iff.2 distinct, ?_⟩
  rw [inScope] at services ⊢
  intro place member
  exact names.mem_iff.2 (services place (places.mem_iff.1 member))

theorem canonicalRepositories_eq (repositories : List RepositoryPin) :
    canonicalRepositories repositories = sortRepositories (repositories.map canonicalEvidence) := by
  rw [canonicalRepositories, sortRepositories, sortRepositories]
  exact map_insertionSort _ _ canonicalEvidence _ fun _ _ _ _ => Iff.rfl

theorem BoundaryDraft.Reordered.canonicalRepositories_eq
    (reordered : first.Reordered second) (admissible : Admissible first) :
    canonicalRepositories first.repositories = canonicalRepositories second.repositories := by
  rw [Core.canonicalRepositories_eq, Core.canonicalRepositories_eq]
  apply insertionSort_key_eq_of_perm _ reordered.map_repositories
  simpa [canonicalEvidence, comp_def] using admissible.names

theorem BoundaryDraft.Reordered.assemble_eq
    (reordered : first.Reordered second) (admissible : Admissible first)
    (leases : List RuntimeLease) : assemble first leases = assemble second leases := by
  simp only [assemble, reordered.issueKey, reordered.baseGraphDigest,
    reordered.canonicalRepositories_eq admissible]

/-- The draft fails one of the checks, or its services do not fit into the free ports. -/
def Rejected (draft : BoundaryDraft) (occupiedPorts : Finset UInt16) : Prop :=
  ¬ Admissible draft ∨
    FirstFit.Overfull maxPort (portSlots occupiedPorts) (defaultSlots draft.services)

/-- Whenever two services share an identifier, every port from the one default port up to the other
is occupied or goes to a service with a smaller identifier. -/
def Uncontested (services : List ServiceSpec) (occupiedPorts : Finset UInt16) : Prop :=
  ∀ s ∈ services, ∀ t ∈ services, s.id = t.id →
    ∀ port, s.defaultPort.toNat ≤ port → port < t.defaultPort.toNat →
      port ∈ portSlots occupiedPorts ∨
        FirstFit.Crowded (portSlots occupiedPorts)
          (defaultSlots (services.filter fun service => service.id < s.id)) port

variable {occupiedPorts : Finset UInt16}

theorem rejected_iff :
    Rejected draft occupiedPorts ↔ ∀ boundary, compile draft occupiedPorts ≠ .ok boundary := by
  have slots : (defaultSlots (sortServices draft.services)).Perm (defaultSlots draft.services) :=
    (perm_insertionSort _ _).map _
  have fits := allocate_eq_none_iff (portSlots occupiedPorts)
    (defaultSlots_le (sortServices draft.services))
  rw [FirstFit.Overfull.perm slots] at fits
  constructor
  · rintro (bad | full) boundary done
    · exact bad (compile_eq_ok_iff.1 done).1
    · obtain ⟨_, leases, leased, _⟩ := compile_eq_ok_iff.1 done
      obtain ⟨_, _, allocated, _⟩ := leaseServices_eq_ok_iff.1 leased
      rw [fits.2 full] at allocated
      cases allocated
  intro never
  by_contra accepted
  rw [Rejected, not_or, not_not, ← fits] at accepted
  obtain ⟨⟨slots', final⟩, allocated⟩ := Option.ne_none_iff_exists'.1 accepted.2
  exact never _ (compile_eq_ok_iff.2
    ⟨accepted.1, _, leaseServices_eq_ok_iff.2 ⟨slots', final, allocated, rfl⟩, rfl⟩)

theorem BoundaryDraft.Reordered.rejected_iff (reordered : first.Reordered second) :
    Rejected first occupiedPorts ↔ Rejected second occupiedPorts := by
  rw [Rejected, Rejected, reordered.admissible_iff,
    FirstFit.Overfull.perm reordered.defaultSlots_perm]

section SortedServices

variable {first second : BoundaryDraft} {occupiedPorts : Finset UInt16}

theorem sortServices_sorted (services : List ServiceSpec) :
    (sortServices services).Pairwise fun a b => a.id ≤ b.id :=
  pairwise_insertionSort (fun a b : ServiceSpec => a.id ≤ b.id) _

theorem BoundaryDraft.Reordered.sorted_perm (reordered : first.Reordered second) :
    ((sortServices first.services).map bareService).Perm
      ((sortServices second.services).map bareService) :=
  ((perm_insertionSort _ _).map _).trans
    (reordered.map_services.trans ((perm_insertionSort _ _).map _).symm)

theorem BoundaryDraft.Reordered.ids_eq (reordered : first.Reordered second) :
    (sortServices first.services).map (·.id) = (sortServices second.services).map (·.id) := by
  have sorted : ∀ services : List ServiceSpec,
      ((sortServices services).map (·.id)).Pairwise (· ≤ ·) :=
    fun services => pairwise_map.2 (sortServices_sorted services)
  refine List.Perm.eq_of_pairwise ?_ (sorted first.services) (sorted second.services) ?_
  · intro a b _ _ hab hba
    exact le_antisymm hab hba
  have := reordered.sorted_perm.map (·.id)
  simpa [bareService, comp_def] using this

theorem smaller_subperm {services early late : List ServiceSpec} {s : ServiceSpec}
    (split : sortServices services = early ++ s :: late) :
    (defaultSlots (services.filter fun service => service.id < s.id)).Subperm
      (defaultSlots early) := by
  have sorted := sortServices_sorted services
  rw [split] at sorted
  have noLater : (s :: late).filter (fun service => service.id < s.id) = [] := by
    rw [filter_eq_nil_iff]
    intro other member
    have above := (pairwise_append.1 sorted).2.1
    rcases mem_cons.1 member with rfl | inLate
    · simp
    rw [decide_eq_true_eq]
    exact not_lt.2 ((pairwise_cons.1 above).1 other inLate)
  have same : (services.filter fun service => service.id < s.id).Perm
      (early.filter fun service => service.id < s.id) := by
    have := ((perm_insertionSort (fun a b : ServiceSpec => a.id ≤ b.id) services).filter
      fun service => service.id < s.id).symm
    change List.Perm _ ((sortServices services).filter _) at this
    rwa [split, filter_append, noLater, append_nil] at this
  have sublist : (defaultSlots (early.filter fun service => service.id < s.id)).Sublist
      (defaultSlots early) := filter_sublist.map _
  exact (same.map _).subperm.trans sublist.subperm

theorem firstFree_eq_of_uncontested (uncontested : Uncontested first.services occupiedPorts)
    {early late : List ServiceSpec} {s t : ServiceSpec}
    (split : sortServices first.services = early ++ s :: late) (ht : t ∈ first.services)
    (same : s.id = t.id) {slots : List ℕ} {between : Finset ℕ}
    (done : allocate maxPort (defaultSlots early) (portSlots occupiedPorts) =
      some (slots, between)) : firstFree maxPort between s.defaultPort.toNat =
      firstFree maxPort between t.defaultPort.toNat := by
  have hs : s ∈ first.services := by
    rw [← mem_sortServices, split]
    simp
  have taken : ∀ port, (port ∈ portSlots occupiedPorts ∨ FirstFit.Crowded (portSlots occupiedPorts)
        (defaultSlots (first.services.filter fun service => service.id < s.id)) port) →
      port ∈ between := by
    intro port h
    rw [allocate_taken_iff done]
    exact h.imp id fun crowded => crowded.mono (smaller_subperm split)
  have bound : ∀ service : ServiceSpec, service.defaultPort.toNat ≤ maxPort := by
    intro service
    have := service.defaultPort.toNat_lt
    simp only [maxPort]
    omega
  rcases le_total s.defaultPort.toNat t.defaultPort.toNat with hle | hle
  · rw [firstFree_eq_of_le hle (bound t)]
    intro port lower upper
    exact taken port (uncontested s hs t ht same port lower upper)
  symm
  rw [firstFree_eq_of_le hle (bound s)]
  intro port lower upper
  apply taken port
  have := uncontested t ht s hs same.symm port lower upper
  rwa [← same] at this

theorem exists_split_of_map {α β : Type} {f : α → β} {list : List α} {early late : List β} {b : β}
    (split : list.map f = early ++ b :: late) :
    ∃ early' a late', list = early' ++ a :: late' ∧ early'.map f = early ∧ f a = b := by
  obtain ⟨early', rest, rfl, rfl, mapped⟩ := map_eq_append_iff.1 split
  obtain ⟨a, late', rfl, rfl, _⟩ := map_eq_cons_iff.1 mapped
  exact ⟨early', a, late', rfl, rfl, rfl⟩

theorem BoundaryDraft.Reordered.allocate_eq (reordered : first.Reordered second)
    (uncontested : Uncontested first.services occupiedPorts) :
    allocate maxPort (defaultSlots (sortServices first.services)) (portSlots occupiedPorts) =
      allocate maxPort (defaultSlots (sortServices second.services)) (portSlots occupiedPorts) := by
  apply allocate_congr
  · have := congrArg List.length reordered.ids_eq
    simpa [defaultSlots] using this
  intro early p late early' p' late' split split' sameLength slots between done
  obtain ⟨before, s, after, hsplit, rfl, rfl⟩ := exists_split_of_map split
  obtain ⟨before', s', after', hsplit', rfl, rfl⟩ := exists_split_of_map split'
  simp only [length_map] at sameLength
  have ids := reordered.ids_eq
  rw [hsplit, hsplit', map_append, map_append] at ids
  obtain ⟨_, heads⟩ := append_inj ids (by simpa using sameLength)
  simp only [map_cons, List.cons.injEq] at heads
  -- the service of the second draft is a service of the first up to its dependency list
  have member : bareService s' ∈ first.services.map bareService := by
    rw [reordered.map_services.mem_iff]
    apply mem_map_of_mem
    rw [← mem_sortServices, hsplit']
    simp
  obtain ⟨t, ht, equal⟩ := mem_map.1 member
  have id_eq : (bareService t).id = (bareService s').id := by rw [equal]
  have port_eq : (bareService t).defaultPort = (bareService s').defaultPort := by rw [equal]
  change t.id = s'.id at id_eq
  change t.defaultPort = s'.defaultPort at port_eq
  have := firstFree_eq_of_uncontested uncontested hsplit ht (heads.1.trans id_eq.symm) done
  rwa [port_eq] at this

theorem zipWith_leaseFor_eq {networkNamespace : String} {services services' : List ServiceSpec}
    (ids : services.map (·.id) = services'.map (·.id)) (slots : List ℕ) :
    List.zipWith (leaseFor networkNamespace) services slots =
      List.zipWith (leaseFor networkNamespace) services' slots := by
  induction services generalizing services' slots with
  | nil =>
    rw [map_nil, eq_comm, map_eq_nil_iff] at ids
    rw [ids]
  | cons s rest ih =>
    cases services' with
    | nil => simp at ids
    | cons s' rest' =>
      simp only [map_cons, List.cons.injEq] at ids
      cases slots with
      | nil => rfl
      | cons slot slots =>
        rw [zipWith_cons_cons, zipWith_cons_cons, ih ids.2]
        simp only [leaseFor, ids.1]

theorem BoundaryDraft.Reordered.leaseServices_iff (reordered : first.Reordered second)
    (uncontested : Uncontested first.services occupiedPorts) (networkNamespace : String)
    (leases : List RuntimeLease) :
    leaseServices networkNamespace (sortServices first.services) occupiedPorts = .ok leases ↔
      leaseServices networkNamespace (sortServices second.services) occupiedPorts = .ok leases := by
  rw [leaseServices_eq_ok_iff, leaseServices_eq_ok_iff, reordered.allocate_eq uncontested]
  simp only [zipWith_leaseFor_eq reordered.ids_eq]

end SortedServices

/-! ### Different leases for contested services -/

def moveToFront (draft : BoundaryDraft) (service : ServiceSpec) : BoundaryDraft :=
  { draft with services := service :: draft.services.erase service }

theorem reordered_moveToFront {service : ServiceSpec}
    (member : service ∈ draft.services) : draft.Reordered (moveToFront draft service) where
  issueKey := rfl
  baseGraphDigest := rfl
  repositories := ⟨_, .refl _, forall₂_same.2 fun r _ => .refl r⟩
  services := ⟨_, perm_cons_erase member, forall₂_same.2 fun s _ => .refl s⟩

theorem sortServices_moveToFront {service : ServiceSpec} (member : service ∈ draft.services) :
    ∃ early late, sortServices (moveToFront draft service).services = early ++ service :: late ∧
      early.Perm (draft.services.filter fun other => other.id < service.id) := by
  have split := eq_filter_append_filter (fun s : ServiceSpec => s.id) service.id
    (sortServices_sorted (moveToFront draft service).services)
  have block : (sortServices (moveToFront draft service).services).filter
      (fun other => other.id = service.id) =
        service :: (draft.services.erase service).filter fun other => other.id = service.id := by
    have := filter_key_insertionSort (fun s : ServiceSpec => s.id) service.id
      (moveToFront draft service).services
    simpa [sortServices, moveToFront] using this
  rw [block] at split
  refine ⟨_, _, split.trans (by rw [cons_append]), ?_⟩
  have same : (sortServices (moveToFront draft service).services).Perm draft.services :=
    (perm_insertionSort _ _).trans (perm_cons_erase member).symm
  exact same.filter _

theorem zipWith_at {α β γ : Type} {f : α → β → γ} {early early' late late' : List α} {a a' : α}
    {items items' : List β} (equal : List.zipWith f (early ++ a :: late) items =
      List.zipWith f (early' ++ a' :: late') items')
    (before : early.length = early'.length) (inside : early.length < items.length)
    (inside' : early'.length < items'.length) :
    f a items[early.length] = f a' items'[early'.length] := by
  have position := congrArg (fun list => list[early.length]?) equal
  simp only [getElem?_zipWith, getElem?_eq_getElem inside] at position
  rw [getElem?_append_right (le_refl _), Nat.sub_self, getElem?_cons_zero,
    getElem?_append_right (le_of_eq before.symm), ← before, Nat.sub_self,
    getElem?_cons_zero, getElem?_eq_getElem (before ▸ inside')] at position
  simp only [Option.some.injEq] at position
  rw [position]
  simp only [before]

theorem uncontested_of_sameResults
    {boundary : WorkspaceBoundary} (compiled : compile draft occupiedPorts = .ok boundary)
    (same : ∀ draft', draft.Reordered draft' →
      SameResult (compile draft occupiedPorts) (compile draft' occupiedPorts)) :
    Uncontested draft.services occupiedPorts := by
  have leased : ∀ service ∈ draft.services, ∃ slots final,
      allocate maxPort (defaultSlots (sortServices (moveToFront draft service).services))
          (portSlots occupiedPorts) = some (slots, final) ∧
        boundary.runtimeLeases = List.zipWith (leaseFor (slug (canonicalIssueKey draft.issueKey)))
            (sortServices (moveToFront draft service).services) slots := by
    intro service member
    have moved := (sameResult_iff.1 (same _ (reordered_moveToFront member)) boundary).1 compiled
    obtain ⟨_, leases, leased, rfl⟩ := compile_eq_ok_iff.1 moved
    exact leaseServices_eq_ok_iff.1 leased
  intro s hs t ht sameId port lower upper
  obtain ⟨slots, final, allocated, leases⟩ := leased s hs
  obtain ⟨slots', final', allocated', leases'⟩ := leased t ht
  obtain ⟨early, late, split, smaller⟩ := sortServices_moveToFront hs
  obtain ⟨early', late', split', smaller'⟩ := sortServices_moveToFront ht
  rw [← sameId] at smaller'
  have before : early.length = early'.length := (smaller.trans smaller'.symm).length_eq
  have top := le_top_of_allocate allocated
  have top' := le_top_of_allocate allocated'
  have length := length_of_allocate allocated
  have length' := length_of_allocate allocated'
  rw [split, defaultSlots, map_append, map_cons] at allocated
  rw [split', defaultSlots, map_append, map_cons] at allocated'
  obtain ⟨_, between, reached, found⟩ := allocate_split allocated
  obtain ⟨_, between', reached', found'⟩ := allocate_split allocated'
  -- both runs reach the identifier with the same ports taken
  have sameTaken : between = between' := by
    ext x
    rw [allocate_taken_iff reached, allocate_taken_iff reached',
      FirstFit.Crowded.perm ((smaller.trans smaller'.symm).map _)]
  -- and the two lease lists agree, at this position too
  have sameSlot : slots[early.length]? = slots'[early'.length]? := by
    have inside : early.length < slots.length := by
      rw [length, split]
      simp [defaultSlots]
    have inside' : early'.length < slots'.length := by
      rw [length', split']
      simp [defaultSlots]
    rw [split] at leases
    rw [split'] at leases'
    have equal := zipWith_at (leases.symm.trans leases') before inside inside'
    have ports := congrArg (fun lease => lease.loopbackPort.toNat) equal
    have small := top _ (getElem_mem inside)
    have small' := top' _ (getElem_mem inside')
    simp only [maxPort] at small small'
    simp only [leaseFor, UInt16.toNat_ofNat'] at ports
    rw [getElem?_eq_getElem inside, getElem?_eq_getElem inside', Option.some.injEq]
    omega
  rw [length_map, sameSlot] at found
  rw [length_map, ← found, ← sameTaken] at found'
  have bound : t.defaultPort.toNat ≤ maxPort := by
    have := t.defaultPort.toNat_lt
    simp only [maxPort]
    omega
  have skipped := (firstFree_eq_of_le (by omega) bound).1 found'.symm port lower upper
  rw [allocate_taken_iff reached, FirstFit.Crowded.perm (smaller.map _)] at skipped
  exact skipped

/-- Compilation gives the same result for every order of the lists of a draft exactly when the draft
is rejected or no two of its services contest a port under one identifier. -/
theorem compile_reordered_iff (draft : BoundaryDraft) (occupiedPorts : Finset UInt16) :
    (∀ draft', draft.Reordered draft' →
      SameResult (compile draft occupiedPorts) (compile draft' occupiedPorts)) ↔
    Rejected draft occupiedPorts ∨ Uncontested draft.services occupiedPorts := by
  constructor
  · intro same
    by_cases rejected : Rejected draft occupiedPorts
    · exact .inl rejected
    rw [rejected_iff] at rejected
    push Not at rejected
    obtain ⟨boundary, compiled⟩ := rejected
    exact .inr (uncontested_of_sameResults compiled same)
  rintro (rejected | uncontested) draft' reordered
  · have rejected' := reordered.rejected_iff.1 rejected
    rw [Core.rejected_iff] at rejected rejected'
    rw [sameResult_iff]
    exact fun boundary => ⟨fun h => absurd h (rejected boundary),
      fun h => absurd h (rejected' boundary)⟩
  · rw [sameResult_iff]
    intro boundary
    rw [compile_eq_ok_iff, compile_eq_ok_iff, ← reordered.admissible_iff, ← reordered.issueKey]
    simp only [reordered.leaseServices_iff uncontested]
    constructor
    · rintro ⟨admissible, leases, leased, rfl⟩
      exact ⟨admissible, leases, leased, reordered.assemble_eq admissible leases⟩
    · rintro ⟨admissible, leases, leased, rfl⟩
      exact ⟨admissible, leases, leased, (reordered.assemble_eq admissible leases).symm⟩

def twinServiceDraft (first second : UInt16) : BoundaryDraft where
  issueKey := "task-42"
  baseGraphDigest := "graph-base-42"
  repositories :=
    [{ name := "orders-api", baseRef := "main", baseCommit := "aaa",
       relevanceBasisPoints := 9000, evidence := [] }]
  services :=
    [{ id := "orders-api", repository := "orders-api", defaultPort := first, dependsOn := [] },
      { id := "orders-api", repository := "orders-api", defaultPort := second, dependsOn := [] }]

/-- Swapping the two services swaps the ports of their leases. -/
theorem compile_reordered_counterexample :
    ¬ ∀ (draft draft' : BoundaryDraft) (occupiedPorts : Finset UInt16), draft.Reordered draft' →
      SameResult (compile draft occupiedPorts) (compile draft' occupiedPorts) := by
  intro claim
  have reordered : (twinServiceDraft 9000 9100).Reordered (twinServiceDraft 9100 9000) :=
    { issueKey := rfl
      baseGraphDigest := rfl
      repositories := ⟨_, .refl _, forall₂_same.2 fun r _ => .refl r⟩
      services := ⟨_, .swap _ _ [], forall₂_same.2 fun s _ => .refl s⟩ }
  have accepted : (compile (twinServiceDraft 9000 9100) ∅).toBool = true := by decide +kernel
  have accepted' : (compile (twinServiceDraft 9100 9000) ∅).toBool = true := by decide +kernel
  have ports : (compile (twinServiceDraft 9000 9100) ∅).toOption.map
      (fun boundary => boundary.runtimeLeases.map (·.loopbackPort)) = some [9000, 9100] := by
    decide +kernel
  have ports' : (compile (twinServiceDraft 9100 9000) ∅).toOption.map
      (fun boundary => boundary.runtimeLeases.map (·.loopbackPort)) = some [9100, 9000] := by
    decide +kernel
  have same := claim _ _ ∅ reordered
  cases first : compile (twinServiceDraft 9000 9100) ∅ with
  | error error =>
    rw [first] at accepted
    cases accepted
  | ok boundary =>
    cases second : compile (twinServiceDraft 9100 9000) ∅ with
    | error error =>
      rw [second] at accepted'
      cases accepted'
    | ok boundary' =>
      rw [first, second] at same
      change boundary = boundary' at same
      rw [first, same, ← second, ports'] at ports
      exact absurd ports (by decide)

end Wts.Core
