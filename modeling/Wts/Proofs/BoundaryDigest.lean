/-
Module: Wts.Proofs.BoundaryDigest
Purpose: What the boundary digest commits to.
Trusted boundary: none
Main exports: digest_commits_iff
-/
import Wts.Proofs.BoundaryCompile
import Wts.Library.EntryMap

namespace Wts.Core

open Text EntryMap List Sha256

/-- The boundaries that compilation and revisions produce. -/
inductive Obtained : WorkspaceBoundary → Prop where
  | compiled {draft : BoundaryDraft} {occupiedPorts : Finset UInt16} {boundary : WorkspaceBoundary}
      (done : compile draft occupiedPorts = .ok boundary) : Obtained boundary
  | revised {draft : BoundaryDraft} {occupiedPorts : Finset UInt16}
      {earlier boundary : WorkspaceBoundary} (before : Obtained earlier)
      (done : earlier.revise draft occupiedPorts = .ok boundary) : Obtained boundary

variable {boundary first second : WorkspaceBoundary}

theorem WorkspaceBoundary.revise_eq_ok_iff {earlier : WorkspaceBoundary}
    {draft : BoundaryDraft} {occupiedPorts : Finset UInt16} :
    earlier.revise draft occupiedPorts = .ok boundary ↔
      ∃ compiled, compile draft occupiedPorts = .ok compiled ∧ boundary =
          { compiled with
            revision := earlier.revision + 1
            parentDigest := some earlier.digest
            digest := computeDigest
              { compiled with
                revision := earlier.revision + 1
                parentDigest := some earlier.digest } } := by
  rw [WorkspaceBoundary.revise]
  cases compile draft occupiedPorts with
  | error error => simp
  | ok compiled =>
    simp only [Except.ok.injEq, exists_eq_left']
    exact eq_comm

theorem digestParts_ne_empty (parts : List String) : digestParts parts ≠ "" := by
  intro empty
  have := congrArg (fun text : String => text.toList.length) empty
  simp only [digestParts, hexEncode, String.toList_ofList, length_hexChars,
    length_sha256] at this
  cases this

/-- What holds of every obtained boundary, whatever its revision. -/
structure Sealed (boundary : WorkspaceBoundary) : Prop where
  digest : boundary.digest = computeDigest boundary
  overlay : boundary.overlayDigest =
    digestParts (overlayParts boundary.issueKey boundary.baseGraphDigest boundary.repositories)
  names : (boundary.repositories.map (·.name)).Nodup
  leases : ∀ lease ∈ boundary.runtimeLeases,
    lease.networkNamespace = slug boundary.issueKey ∧
      lease.hostname = slug lease.serviceId ++ "." ++ slug boundary.issueKey ++ ".wts"
  ordered : boundary.runtimeLeases.Pairwise fun a b => a.serviceId ≤ b.serviceId
  parent : boundary.parentDigest ≠ some ""

variable {lease : RuntimeLease}

theorem mem_zipWith_leaseFor {networkNamespace : String} {services : List ServiceSpec}
    {slots : List ℕ} (member : lease ∈ List.zipWith (leaseFor networkNamespace) services slots) :
    lease.networkNamespace = networkNamespace ∧
      lease.hostname = slug lease.serviceId ++ "." ++ networkNamespace ++ ".wts" := by
  rw [← map_uncurry_zip_eq_zipWith] at member
  obtain ⟨⟨service, slot⟩, _, rfl⟩ := mem_map.1 member
  exact ⟨rfl, rfl⟩

theorem map_serviceId_zipWith_sublist (networkNamespace : String) (services : List ServiceSpec)
    (slots : List ℕ) :
    ((List.zipWith (leaseFor networkNamespace) services slots).map (·.serviceId)).Sublist
      (services.map (·.id)) := by
  induction services generalizing slots with
  | nil => simp
  | cons service rest ih =>
    cases slots with
    | nil => simp
    | cons slot slots => exact (ih slots).cons_cons _

theorem sealed_of_compile {draft : BoundaryDraft} {occupiedPorts : Finset UInt16}
    (done : compile draft occupiedPorts = .ok boundary) : Sealed boundary := by
  obtain ⟨admissible, leases, leased, rfl⟩ := compile_eq_ok_iff.1 done
  obtain ⟨slots, _, _, rfl⟩ := leaseServices_eq_ok_iff.1 leased
  exact
    { digest := rfl
      overlay := rfl
      names := (canonicalRepositories_names_perm _).nodup_iff.2 admissible.names
      leases := fun lease member => mem_zipWith_leaseFor member
      ordered := by
        have sorted := pairwise_map.2
          (pairwise_insertionSort (fun a b : ServiceSpec => a.id ≤ b.id) draft.services)
        exact pairwise_map.1 (sorted.sublist (map_serviceId_zipWith_sublist _ _ _))
      parent := by simp [assemble] }

theorem Obtained.isSealed (obtained : Obtained boundary) : Sealed boundary := by
  induction obtained with
  | compiled done => exact sealed_of_compile done
  | revised before done ih =>
    obtain ⟨compiled, done', rfl⟩ := WorkspaceBoundary.revise_eq_ok_iff.1 done
    have base := sealed_of_compile done'
    exact
      { base with
        digest := rfl
        parent := by
          rw [ih.digest]
          simpa [computeDigest] using digestParts_ne_empty _ }

/-- The messages that are hashed for a boundary. -/
def hashedMessages (boundary : WorkspaceBoundary) : List (List UInt8) :=
  [partsMessage (boundaryParts boundary),
    partsMessage
      (overlayParts boundary.issueKey boundary.baseGraphDigest boundary.repositories)]

/-- SHA-256 has no collision among the messages. -/
def CollisionFree (messages : List (List UInt8)) : Prop :=
  ∀ first ∈ messages, ∀ second ∈ messages,
    Sha256.sha256 first = Sha256.sha256 second → first = second

/-- Every hashed string has a length that fits into the eight bytes of its frame, as the length of
every Rust string does. -/
def Framed (boundary : WorkspaceBoundary) : Prop :=
  ∀ part ∈ boundaryParts boundary ++
      overlayParts boundary.issueKey boundary.baseGraphDigest boundary.repositories,
    part.utf8ByteSize < 2 ^ 64

theorem partsMessage_injective {first second : List String}
    (short : ∀ part ∈ first, part.utf8ByteSize < 2 ^ 64)
    (short' : ∀ part ∈ second, part.utf8ByteSize < 2 ^ 64)
    (same : partsMessage first = partsMessage second) : first = second := by
  have bytes : ∀ {parts : List String}, (∀ part ∈ parts, part.utf8ByteSize < 2 ^ 64) →
      ∀ part ∈ parts.map utf8Bytes, part.length < 2 ^ 64 := by
    intro parts bounded part member
    obtain ⟨text, inside, rfl⟩ := mem_map.1 member
    rw [length_utf8Bytes]
    exact bounded text inside
  exact map_injective_iff.2 utf8Bytes_injective
    (frame_injective (bytes short) (bytes short') same)

theorem digestParts_inj {first second : List String}
    (free : sha256 (partsMessage first) = sha256 (partsMessage second) →
      partsMessage first = partsMessage second) (short : ∀ part ∈ first, part.utf8ByteSize < 2 ^ 64)
    (short' : ∀ part ∈ second, part.utf8ByteSize < 2 ^ 64)
    (same : digestParts first = digestParts second) : first = second :=
  partsMessage_injective short short' (free (hexEncode_injective same))

theorem boundaryParts_eq_of_digest_eq (isSealed : Sealed first) (isSealed' : Sealed second)
    (free : CollisionFree (hashedMessages first ++ hashedMessages second))
    (framed : Framed first) (framed' : Framed second) (same : first.digest = second.digest) :
    boundaryParts first = boundaryParts second := by
  rw [isSealed.digest, isSealed'.digest] at same
  refine digestParts_inj (free _ (by simp [hashedMessages]) _ (by simp [hashedMessages]))
    (fun part member => framed part (mem_append_left _ member))
    (fun part member => framed' part (mem_append_left _ member)) same

theorem overlayParts_eq_of_overlay_eq (isSealed : Sealed first) (isSealed' : Sealed second)
    (free : CollisionFree (hashedMessages first ++ hashedMessages second))
    (framed : Framed first) (framed' : Framed second)
    (same : first.overlayDigest = second.overlayDigest) :
    overlayParts first.issueKey first.baseGraphDigest first.repositories =
      overlayParts second.issueKey second.baseGraphDigest second.repositories := by
  rw [isSealed.overlay, isSealed'.overlay] at same
  exact digestParts_inj (free _ (by simp [hashedMessages]) _ (by simp [hashedMessages]))
    (fun part member => framed part (mem_append_right _ member))
    (fun part member => framed' part (mem_append_right _ member)) same

/-! ### The entries of the digest -/

def keyFamily (key : String) : List Char :=
  key.toList.takeWhile (· ≠ ':')

theorem keyFamily_repository (name : String) : keyFamily ("repo:" ++ name) = "repo".toList := by
  simp [keyFamily]

theorem keyFamily_lease (name : String) : keyFamily ("lease:" ++ name) = "lease".toList := by
  simp [keyFamily]

theorem keyFamily_capability (name : String) :
    keyFamily ("capability:" ++ name) = "capability".toList := by
  simp [keyFamily]

theorem prefixed_injective (start : String) : Function.Injective (start ++ ·) := by
  intro first second same
  have chars := congrArg String.toList same
  exact String.toList_inj.1 (by simpa using chars)

def scalarEntries (boundary : WorkspaceBoundary) : List (String × String) :=
  [("issue", boundary.issueKey), ("revision", decimal boundary.revision.toNat),
    ("parent", boundary.parentDigest.getD ""), ("base_graph", boundary.baseGraphDigest),
    ("overlay", boundary.overlayDigest)]

theorem lastValue_digestEntries (boundary : WorkspaceBoundary) (key : String) :
    lastValue (digestEntries boundary) key =
      (lastValue (boundary.capabilities.mapIdx capabilityField) key).or
        ((lastValue (boundary.runtimeLeases.map leaseField) key).or
          ((lastValue (boundary.repositories.map repositoryField) key).or
            (lastValue (scalarEntries boundary) key))) := by
  rw [digestEntries, lastValue_append, lastValue_append, lastValue_append]
  rfl

variable {key : String}

theorem lastValue_capabilities_of_family (other : keyFamily key ≠ "capability".toList) :
    lastValue (boundary.capabilities.mapIdx capabilityField) key = none := by
  apply lastValue_eq_none
  intro entry member equal
  obtain ⟨index, _, rfl⟩ := mem_mapIdx.1 member
  exact other (equal ▸ keyFamily_capability _)

theorem lastValue_leases_of_family (other : keyFamily key ≠ "lease".toList) :
    lastValue (boundary.runtimeLeases.map leaseField) key = none := by
  apply lastValue_eq_none
  intro entry member equal
  obtain ⟨lease, _, rfl⟩ := mem_map.1 member
  exact other (equal ▸ keyFamily_lease _)

theorem lastValue_repositories_of_family (other : keyFamily key ≠ "repo".toList) :
    lastValue (boundary.repositories.map repositoryField) key = none := by
  apply lastValue_eq_none
  intro entry member equal
  obtain ⟨repository, _, rfl⟩ := mem_map.1 member
  exact other (equal ▸ keyFamily_repository _)

theorem lastValue_scalars_of_family
    (other : keyFamily key ∈ ["repo".toList, "lease".toList, "capability".toList]) :
    lastValue (scalarEntries boundary) key = none := by
  apply lastValue_eq_none
  intro entry member equal
  rw [← equal] at other
  simp only [scalarEntries, mem_cons, not_mem_nil, or_false] at member
  rcases member with rfl | rfl | rfl | rfl | rfl
  all_goals
    dsimp only at other
    revert other
    decide

/-- The lease that a reader of the list finds for a service. -/
def lastLease (boundary : WorkspaceBoundary) (serviceId : String) : Option RuntimeLease :=
  lastValue (boundary.runtimeLeases.map fun lease => (lease.serviceId, lease)) serviceId

theorem lastValue_lease (boundary : WorkspaceBoundary) (serviceId : String) :
    lastValue (digestEntries boundary) ("lease:" ++ serviceId) =
      (lastLease boundary serviceId).map fun lease => (leaseField lease).2 := by
  have family := keyFamily_lease serviceId
  rw [lastValue_digestEntries,
    lastValue_capabilities_of_family (by rw [family]; decide),
    lastValue_repositories_of_family (by rw [family]; decide),
    lastValue_scalars_of_family (by rw [family]; decide), Option.none_or, Option.none_or,
    Option.or_none]
  exact lastValue_map (prefixed_injective "lease:") (·.serviceId) _ boundary.runtimeLeases serviceId

theorem lastValue_capability (boundary : WorkspaceBoundary) (index : ℕ) :
    lastValue (digestEntries boundary) ("capability:" ++ padded 4 index) =
      boundary.capabilities[index]?.map fun capability => (capabilityField 0 capability).2 := by
  have family := keyFamily_capability (padded 4 index)
  rw [lastValue_digestEntries,
    lastValue_leases_of_family (by rw [family]; decide),
    lastValue_repositories_of_family (by rw [family]; decide),
    lastValue_scalars_of_family (by rw [family]; decide), Option.none_or, Option.none_or,
    Option.or_none]
  exact lastValue_mapIdx
    ((prefixed_injective "capability:").comp (padded_injective 4)) _ boundary.capabilities index

theorem lastValue_repository {repository : RepositoryPin}
    (distinct : (boundary.repositories.map (·.name)).Nodup)
    (member : repository ∈ boundary.repositories) :
    lastValue (digestEntries boundary) ("repo:" ++ repository.name) =
      some (repositoryField repository).2 := by
  have family := keyFamily_repository repository.name
  rw [lastValue_digestEntries,
    lastValue_capabilities_of_family (by rw [family]; decide),
    lastValue_leases_of_family (by rw [family]; decide),
    lastValue_scalars_of_family (by rw [family]; decide), Option.none_or, Option.none_or,
    Option.or_none]
  apply lastValue_eq_some_of_mem
  · rw [map_map]
    have := distinct.map (prefixed_injective "repo:")
    rwa [map_map] at this
  exact mem_map_of_mem (f := repositoryField) member

theorem lastValue_scalar (boundary : WorkspaceBoundary)
    (other : keyFamily key ∉ ["repo".toList, "lease".toList, "capability".toList]) :
    lastValue (digestEntries boundary) key = lastValue (scalarEntries boundary) key := by
  simp only [mem_cons, not_mem_nil, or_false, not_or] at other
  rw [lastValue_digestEntries, lastValue_capabilities_of_family other.2.2,
    lastValue_leases_of_family other.2.1, lastValue_repositories_of_family other.1,
    Option.none_or, Option.none_or, Option.none_or]

theorem boundaryParts_eq_iff : boundaryParts first = boundaryParts second ↔
      ∀ key, lastValue (digestEntries first) key = lastValue (digestEntries second) key := by
  have pairs : Function.Injective fun entries : List (String × String) =>
      entries.flatMap fun entry => [entry.1, entry.2] := by
    intro first
    induction first with
    | nil =>
      intro second same
      cases second with
      | nil => rfl
      | cons entry rest => simp at same
    | cons entry rest ih =>
      intro second same
      cases second with
      | nil => simp at same
      | cons entry' rest' =>
        simp only [flatMap_cons, cons_append, nil_append,
          List.cons.injEq] at same
        rw [ih same.2.2, Prod.ext same.1 same.2.1]
  rw [← toList_ofEntries_eq_iff compare]
  exact pairs.eq_iff

/-- Two repositories that differ at most in evidence with the same comma-joined text. -/
structure SameCovered (first second : RepositoryPin) : Prop where
  name : first.name = second.name
  baseRef : first.baseRef = second.baseRef
  baseCommit : first.baseCommit = second.baseCommit
  relevance : first.relevanceBasisPoints = second.relevanceBasisPoints
  evidence : String.intercalate "," first.evidence = String.intercalate "," second.evidence

/-- Two boundaries that agree on everything that the digest covers. -/
structure Indistinguishable (first second : WorkspaceBoundary) : Prop where
  issueKey : first.issueKey = second.issueKey
  revision : first.revision = second.revision
  parentDigest : first.parentDigest = second.parentDigest
  baseGraphDigest : first.baseGraphDigest = second.baseGraphDigest
  repositories : List.Forall₂ SameCovered first.repositories second.repositories
  leases : ∀ serviceId, lastLease first serviceId = lastLease second serviceId
  capabilities : first.capabilities = second.capabilities

theorem SameCovered.repositoryField_eq {first second : RepositoryPin}
    (same : SameCovered first second) : repositoryField first = repositoryField second := by
  simp only [repositoryField, same.name, same.baseRef, same.baseCommit, same.relevance,
    same.evidence]

theorem Indistinguishable.overlayParts_eq (same : Indistinguishable first second) :
    overlayParts first.issueKey first.baseGraphDigest first.repositories =
      overlayParts second.issueKey second.baseGraphDigest second.repositories := by
  rw [overlayParts, overlayParts, same.issueKey, same.baseGraphDigest]
  have parts := same.repositories
  generalize first.repositories = repositories, second.repositories = repositories' at parts
  induction parts with
  | nil => rfl
  | cons head tail ih =>
    simp only [List.cons.injEq, true_and] at ih
    simp only [flatMap_cons, head.name, head.baseRef, head.baseCommit, ih]

theorem Indistinguishable.boundaryParts_eq (isSealed : Sealed first) (isSealed' : Sealed second)
    (same : Indistinguishable first second) : boundaryParts first = boundaryParts second := by
  have repositories : first.repositories.map repositoryField =
      second.repositories.map repositoryField := by
    have related := same.repositories
    generalize first.repositories = repositories, second.repositories = repositories' at related
    induction related with
    | nil => rfl
    | cons head _ ih => rw [map_cons, map_cons, ih, head.repositoryField_eq]
  have scalars : scalarEntries first = scalarEntries second := by
    rw [scalarEntries, scalarEntries, same.issueKey, same.revision, same.parentDigest,
      same.baseGraphDigest, isSealed.overlay, isSealed'.overlay, same.overlayParts_eq]
  have leases : ∀ key, lastValue (first.runtimeLeases.map leaseField) key =
      lastValue (second.runtimeLeases.map leaseField) key := by
    intro key
    by_cases prefixed : ∃ serviceId, "lease:" ++ serviceId = key
    · obtain ⟨serviceId, rfl⟩ := prefixed
      have split := fun boundary : WorkspaceBoundary =>
        lastValue_map (prefixed_injective "lease:") (·.serviceId)
          (fun lease => (leaseField lease).2) boundary.runtimeLeases serviceId
      exact (split first).trans ((congrArg _ (same.leases serviceId)).trans (split second).symm)
    -- no lease has such a key
    have absent : ∀ boundary : WorkspaceBoundary,
        lastValue (boundary.runtimeLeases.map leaseField) key = none := by
      intro boundary
      apply lastValue_eq_none
      intro entry member equal
      obtain ⟨lease, _, rfl⟩ := mem_map.1 member
      exact prefixed ⟨_, equal⟩
    rw [absent, absent]
  rw [boundaryParts_eq_iff]
  intro key
  rw [lastValue_digestEntries, lastValue_digestEntries, same.capabilities, leases, repositories,
    scalars]

theorem Indistinguishable.digest_eq (isSealed : Sealed first)
    (isSealed' : Sealed second) (same : Indistinguishable first second) :
    first.digest = second.digest := by
  rw [isSealed.digest, isSealed'.digest, computeDigest, computeDigest,
    same.boundaryParts_eq isSealed isSealed']

/-! ### From equal digests back to the fields -/

theorem effectKey_injective : Function.Injective effectKey := by
  intro first second same
  cases first <;> cases second <;> first | rfl | (revert same; decide)

theorem bar_notMem_effectKey (effect : Effect) : '|' ∉ (effectKey effect).toList := by
  cases effect <;> decide

theorem capability_eq_of_text {first second : Capability}
    (same : (capabilityField 0 first).2 = (capabilityField 0 second).2) : first = second := by
  simp only [capabilityField, String.append_assoc] at same
  have sides := append_bar_inj (bar_notMem_effectKey _) (bar_notMem_effectKey _) same
  cases first
  cases second
  simp only [Capability.mk.injEq]
  exact ⟨effectKey_injective sides.1, sides.2⟩

theorem capabilities_eq
    (same : ∀ key, lastValue (digestEntries first) key = lastValue (digestEntries second) key) :
    first.capabilities = second.capabilities := by
  apply ext_getElem?
  intro index
  have entries := same ("capability:" ++ padded 4 index)
  rw [lastValue_capability, lastValue_capability] at entries
  exact Option.map_injective (fun _ _ => capability_eq_of_text) entries

theorem lease_eq_of_text (isSealed : Sealed first)
    (isSealed' : Sealed second) (issueKey : first.issueKey = second.issueKey)
    {lease' : RuntimeLease} (member : lease ∈ first.runtimeLeases)
    (member' : lease' ∈ second.runtimeLeases) (service : lease.serviceId = lease'.serviceId)
    (same : (leaseField lease).2 = (leaseField lease').2) : lease = lease' := by
  have placed := isSealed.leases lease member
  have placed' := isSealed'.leases lease' member'
  simp only [leaseField, String.append_assoc] at same
  have ports := (append_bar_inj (bar_notMem_decimal _) (bar_notMem_decimal _) same).1
  have port := UInt16.toNat_inj.1 (decimal_injective ports)
  cases lease
  cases lease'
  simp only at service port placed placed'
  simp only [RuntimeLease.mk.injEq]
  refine ⟨service, port, ?_, ?_⟩
  · rw [placed.2, placed'.2, service, issueKey]
  rw [placed.1, placed'.1, issueKey]

theorem mem_of_lastLease {serviceId : String} (found : lastLease boundary serviceId = some lease) :
    lease ∈ boundary.runtimeLeases ∧ lease.serviceId = serviceId := by
  obtain ⟨inside, member, equal⟩ := mem_map.1 (mem_of_lastValue_eq_some found)
  simp only [Prod.mk.injEq] at equal
  obtain ⟨rfl, rfl⟩ := equal
  exact ⟨member, rfl⟩

theorem lastLease_eq (isSealed : Sealed first)
    (isSealed' : Sealed second) (issueKey : first.issueKey = second.issueKey)
    (same : ∀ key, lastValue (digestEntries first) key = lastValue (digestEntries second) key)
    (serviceId : String) : lastLease first serviceId = lastLease second serviceId := by
  have entries := same ("lease:" ++ serviceId)
  rw [lastValue_lease, lastValue_lease] at entries
  cases found : lastLease first serviceId with
  | none =>
    rw [found, Option.map_none, eq_comm, Option.map_eq_none_iff] at entries
    exact entries.symm
  | some lease =>
    cases found' : lastLease second serviceId with
    | none =>
      rw [found, found'] at entries
      cases entries
    | some lease' =>
      rw [found, found', Option.map_some, Option.map_some, Option.some.injEq] at entries
      obtain ⟨member, service⟩ := mem_of_lastLease found
      obtain ⟨member', service'⟩ := mem_of_lastLease found'
      rw [lease_eq_of_text isSealed isSealed' issueKey member member'
        (service.trans service'.symm) entries]

theorem forall₂_of_overlayParts {first second : List RepositoryPin}
    (same : first.flatMap (fun repository =>
        [repository.name, repository.baseCommit, repository.baseRef]) =
      second.flatMap fun repository =>
        [repository.name, repository.baseCommit, repository.baseRef]) :
    List.Forall₂ (fun a b => a.name = b.name ∧ a.baseCommit = b.baseCommit ∧ a.baseRef = b.baseRef)
      first second := by
  induction first generalizing second with
  | nil =>
    cases second with
    | nil => exact .nil
    | cons _ _ => simp at same
  | cons a rest ih =>
    cases second with
    | nil => simp at same
    | cons b rest' =>
      simp only [flatMap_cons, cons_append, nil_append, List.cons.injEq] at same
      exact .cons ⟨same.1, same.2.1, same.2.2.1⟩ (ih same.2.2.2)

theorem covered_of_text {first second : RepositoryPin} (name : first.name = second.name)
    (commit : first.baseCommit = second.baseCommit) (ref : first.baseRef = second.baseRef)
    (same : (repositoryField first).2 = (repositoryField second).2) : SameCovered first second := by
  simp only [repositoryField, commit, ref, String.append_assoc, String.append_right_inj] at same
  have sides := append_bar_inj (bar_notMem_decimal _) (bar_notMem_decimal _) same
  exact ⟨name, ref, commit, UInt16.toNat_inj.1 (decimal_injective sides.1), sides.2⟩

theorem repositories_covered (isSealed : Sealed first) (isSealed' : Sealed second)
    (overlay : first.repositories.flatMap (fun repository =>
        [repository.name, repository.baseCommit, repository.baseRef]) =
      second.repositories.flatMap fun repository =>
        [repository.name, repository.baseCommit, repository.baseRef])
    (same : ∀ key, lastValue (digestEntries first) key = lastValue (digestEntries second) key) :
    List.Forall₂ SameCovered first.repositories second.repositories := by
  have pinned := forall₂_of_overlayParts overlay
  rw [forall₂_iff_get] at pinned ⊢
  refine ⟨pinned.1, fun index inside inside' => ?_⟩
  obtain ⟨name, commit, ref⟩ := pinned.2 index inside inside'
  have field := lastValue_repository isSealed.names (get_mem _ ⟨index, inside⟩)
  have field' := lastValue_repository isSealed'.names (get_mem _ ⟨index, inside'⟩)
  rw [← name, ← same, field, Option.some.injEq] at field'
  exact covered_of_text name commit ref field'

theorem parentDigest_eq {parent parent' : Option String} (nonempty : parent ≠ some "")
    (nonempty' : parent' ≠ some "") (same : parent.getD "" = parent'.getD "") :
    parent = parent' := by
  cases parent with
  | none =>
    cases parent' with
    | none => rfl
    | some digest => exact absurd (congrArg some same.symm) nonempty'
  | some digest =>
    cases parent' with
    | none => exact absurd (congrArg some same) nonempty
    | some digest' => exact congrArg some same

theorem indistinguishable_of_parts (isSealed : Sealed first) (isSealed' : Sealed second)
    (overlay : first.overlayDigest = second.overlayDigest →
      overlayParts first.issueKey first.baseGraphDigest first.repositories =
        overlayParts second.issueKey second.baseGraphDigest second.repositories)
    (parts : boundaryParts first = boundaryParts second) : Indistinguishable first second := by
  have same := boundaryParts_eq_iff.1 parts
  have scalar : ∀ key, keyFamily key ∉ ["repo".toList, "lease".toList, "capability".toList] →
      lastValue (scalarEntries first) key = lastValue (scalarEntries second) key := by
    intro key other
    rw [← lastValue_scalar first other, ← lastValue_scalar second other, same key]
  have issueKey : first.issueKey = second.issueKey :=
    Option.some.inj (scalar "issue" (by decide))
  have revision : first.revision = second.revision :=
    UInt32.toNat_inj.1 (decimal_injective (Option.some.inj (scalar "revision" (by decide))))
  have parent := Option.some.inj (scalar "parent" (by decide))
  have baseGraph : first.baseGraphDigest = second.baseGraphDigest :=
    Option.some.inj (scalar "base_graph" (by decide))
  have covered := overlay (Option.some.inj (scalar "overlay" (by decide)))
  simp only [overlayParts, List.cons.injEq] at covered
  exact
    { issueKey := issueKey
      revision := revision
      parentDigest := parentDigest_eq isSealed.parent isSealed'.parent parent
      baseGraphDigest := baseGraph
      repositories := repositories_covered isSealed isSealed' covered.2.2 same
      leases := lastLease_eq isSealed isSealed' issueKey same
      capabilities := capabilities_eq same }

theorem digest_eq_iff (isSealed : Sealed first) (isSealed' : Sealed second)
    (free : CollisionFree (hashedMessages first ++ hashedMessages second))
    (framed : Framed first) (framed' : Framed second) :
    first.digest = second.digest ↔ Indistinguishable first second := by
  constructor
  · intro same
    exact indistinguishable_of_parts isSealed isSealed'
      (overlayParts_eq_of_overlay_eq isSealed isSealed' free framed framed')
      (boundaryParts_eq_of_digest_eq isSealed isSealed' free framed framed' same)
  exact fun same => same.digest_eq isSealed isSealed'

/-- All fields but the digest agree. -/
structure SameFields (first second : WorkspaceBoundary) : Prop where
  issueKey : first.issueKey = second.issueKey
  revision : first.revision = second.revision
  parentDigest : first.parentDigest = second.parentDigest
  baseGraphDigest : first.baseGraphDigest = second.baseGraphDigest
  overlayDigest : first.overlayDigest = second.overlayDigest
  repositories : first.repositories = second.repositories
  runtimeLeases : first.runtimeLeases = second.runtimeLeases
  capabilities : first.capabilities = second.capabilities

/-- Equal digests imply equal fields and acceptance of the same actions. -/
def Commits (first second : WorkspaceBoundary) : Prop :=
  first.digest = second.digest →
    SameFields first second ∧
      ∀ action, first.verify action = .ok () ↔ second.verify action = .ok ()

/-- The boundaries agree up to the text of joined evidence and up to earlier leases of a repeated
service identifier, and they do differ there. -/
def HiddenTwin (first second : WorkspaceBoundary) : Prop :=
  Indistinguishable first second ∧
    (first.repositories ≠ second.repositories ∨ first.runtimeLeases ≠ second.runtimeLeases)

theorem Indistinguishable.verify_eq (isSealed : Sealed first)
    (isSealed' : Sealed second) (same : Indistinguishable first second) (action : ActionEnvelope) :
    first.verify action = second.verify action := by
  rw [WorkspaceBoundary.verify, WorkspaceBoundary.verify, same.digest_eq isSealed isSealed',
    same.capabilities]

/-- The digest commits to the fields of two obtained boundaries exactly when they are not hidden
twins. -/
theorem digest_commits_iff {first second : WorkspaceBoundary} (obtained : Obtained first)
    (obtained' : Obtained second)
    (free : CollisionFree (hashedMessages first ++ hashedMessages second))
    (framed : Framed first) (framed' : Framed second) :
    Commits first second ↔ ¬ HiddenTwin first second := by
  have isSealed := obtained.isSealed
  have isSealed' := obtained'.isSealed
  constructor
  · rintro commits ⟨same, differ⟩
    have fields := (commits (same.digest_eq isSealed isSealed')).1
    rcases differ with repositories | leases
    · exact repositories fields.repositories
    · exact leases fields.runtimeLeases
  · intro notTwin equal
    have same := (digest_eq_iff isSealed isSealed' free framed framed').1 equal
    simp only [HiddenTwin, not_and, not_or, not_not] at notTwin
    obtain ⟨repositories, leases⟩ := notTwin same
    refine ⟨?_, fun action => by rw [same.verify_eq isSealed isSealed']⟩
    exact
      { same with
        overlayDigest := by rw [isSealed.overlay, isSealed'.overlay, same.overlayParts_eq]
        repositories := repositories
        runtimeLeases := leases }

theorem collisionFree_of_nodup {messages : List (List UInt8)}
    (distinct : (messages.map sha256).Nodup) : CollisionFree messages := by
  intro first member second member' same
  exact inj_on_of_nodup_map distinct member member' same

theorem CollisionFree.subset {messages messages' : List (List UInt8)} (free : CollisionFree messages)
    (inside : ∀ message ∈ messages', message ∈ messages) : CollisionFree messages' :=
  fun first member second member' => free first (inside _ member) second (inside _ member')

def evidenceDraft (evidence : List String) : BoundaryDraft where
  issueKey := "task-42"
  baseGraphDigest := "graph-base-42"
  repositories :=
    [{ name := "orders-api", baseRef := "main", baseCommit := "aaa",
       relevanceBasisPoints := 9000, evidence := evidence }]
  services := []

def evidenceBoundary (evidence : List String) : WorkspaceBoundary :=
  assemble (evidenceDraft evidence) []

theorem compile_evidenceDraft (evidence : List String) :
    compile (evidenceDraft evidence) ∅ = .ok (evidenceBoundary evidence) := by
  refine compile_eq_ok_iff.2 ⟨?_, [], rfl, rfl⟩
  exact
    { issue := by
        change trim "task-42" ≠ ""
        decide
      scope := by simp [evidenceDraft]
      names := by simp [evidenceDraft]
      services := by simp [evidenceDraft] }

theorem obtained_evidenceBoundary (evidence : List String) : Obtained (evidenceBoundary evidence) :=
  .compiled (compile_evidenceDraft evidence)

set_option maxRecDepth 10000 in
/-- Two boundaries with different evidence, and the digest commits to both. -/
theorem digest_commits_iff_evidence :
    Commits (evidenceBoundary ["lexical"]) (evidenceBoundary ["route"]) ↔
      ¬ HiddenTwin (evidenceBoundary ["lexical"]) (evidenceBoundary ["route"]) := by
  refine digest_commits_iff (obtained_evidenceBoundary _) (obtained_evidenceBoundary _) ?_ ?_ ?_
  · have several : CollisionFree (partsMessage (boundaryParts (evidenceBoundary ["lexical"])) ::
        hashedMessages (evidenceBoundary ["route"])) := by
      apply collisionFree_of_nodup
      decide +kernel
    apply several.subset
    · intro message member
      simp only [hashedMessages, mem_append, mem_cons, not_mem_nil, or_false]
        at member ⊢
      rcases member with (h | h) | h
      · exact .inl h
      · exact .inr (.inr h)
      · exact .inr h
  · unfold Framed
    decide +kernel
  · unfold Framed
    decide +kernel

set_option maxRecDepth 10000 in
/-- One piece of evidence with a comma and two pieces without one have the same digest. -/
theorem digest_commits_counterexample :
    ¬ ∀ first second : WorkspaceBoundary, Obtained first → Obtained second →
      CollisionFree (hashedMessages first ++ hashedMessages second) →
      Framed first → Framed second → Commits first second := by
  intro claim
  have same : Indistinguishable (evidenceBoundary ["a.rs,b.rs"])
      (evidenceBoundary ["a.rs", "b.rs"]) :=
    { issueKey := rfl
      revision := rfl
      parentDigest := rfl
      baseGraphDigest := rfl
      repositories := .cons ⟨rfl, rfl, rfl, rfl, by decide⟩ .nil
      leases := fun _ => rfl
      capabilities := rfl }
  have joined := obtained_evidenceBoundary ["a.rs,b.rs"]
  have split := obtained_evidenceBoundary ["a.rs", "b.rs"]
  have free : CollisionFree (hashedMessages (evidenceBoundary ["a.rs,b.rs"]) ++
      hashedMessages (evidenceBoundary ["a.rs", "b.rs"])) := by
    have single : CollisionFree (hashedMessages (evidenceBoundary ["a.rs,b.rs"])) := by
      apply collisionFree_of_nodup
      decide +kernel
    apply single.subset
    · simp only [hashedMessages, ← same.boundaryParts_eq joined.isSealed split.isSealed,
        ← same.overlayParts_eq]
      intro message member
      rcases mem_append.1 member with h | h
      · exact h
      · exact h
  have commits := claim _ _ joined split free (by unfold Framed; decide +kernel)
    (by unfold Framed; decide +kernel)
  have fields := (commits (same.digest_eq joined.isSealed split.isSealed)).1
  have evidence := congrArg (List.map RepositoryPin.evidence) fields.repositories
  revert evidence
  decide

end Wts.Core
