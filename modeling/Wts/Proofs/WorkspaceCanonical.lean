/-
Module: Wts.Proofs.WorkspaceCanonical
Purpose: `CreateWorkspaceRequest::normalize` computes a canonical form.
Trusted boundary: none
Main exports: normalize_canonical
-/
import Wts.Library.StableSort
import Wts.Proofs.StoreCreate

namespace Wts.Workspace

open List Text StableSort
open Std (ExtTreeMap)

def ValidPort (port : RuntimePortSelection) : Prop :=
  validRuntimeIdentifier port.portId = true ∧ ¬port.preferredPort < 1024

variable {index : ℕ}

theorem checkPorts_eq_ok_iff {candidateId : String} {ports : List RuntimePortSelection}
    {portIds : List String} : checkPorts candidateId ports index portIds = .ok () ↔
      (∀ port ∈ ports, ValidPort port) ∧ (ports.map (·.portId)).Nodup ∧
        ∀ port ∈ ports, port.portId ∉ portIds := by
  induction ports generalizing index portIds with
  | nil => simp [checkPorts]
  | cons port rest ih =>
    simp only [checkPorts, ValidPort, forall_mem_cons, map_cons, nodup_cons]
    split
    · rename_i invalid
      simp [invalid]
    rename_i valid
    split
    · rename_i seen
      simp [seen]
    rename_i fresh
    split
    · rename_i low
      simp [low]
    rename_i high
    rw [ih]
    simp only [mem_cons, not_or, mem_map, not_exists, not_and] at *
    constructor
    · intro ⟨validRest, distinct, apart⟩
      exact ⟨⟨⟨not_not.1 valid, high⟩, validRest⟩,
        ⟨fun other inside => (apart other inside).1, distinct⟩, fresh,
        fun other inside => (apart other inside).2⟩
    intro ⟨⟨_, validRest⟩, ⟨first, distinct⟩, _, apart⟩
    exact ⟨validRest, distinct, fun other inside => ⟨first other inside, apart other inside⟩⟩

structure ValidService (service : RuntimeServiceSelection) : Prop where
  identifier : validRuntimeIdentifier service.candidateId = true
  few : service.ports.length ≤ maxRuntimePortsPerService
  ports : ∀ port ∈ service.ports, ValidPort port
  distinct : (service.ports.map (·.portId)).Nodup

def RuntimeServiceSelection.sorted (service : RuntimeServiceSelection) : RuntimeServiceSelection :=
  { service with ports := sortPorts service.ports }

theorem normalizeServices_eq_ok_iff {services normalized : List RuntimeServiceSelection}
    {candidateIds : List String} : normalizeServices services index candidateIds = .ok normalized ↔
      ((∀ service ∈ services, ValidService service) ∧ (services.map (·.candidateId)).Nodup ∧
        ∀ service ∈ services, service.candidateId ∉ candidateIds) ∧
      normalized = services.map RuntimeServiceSelection.sorted := by
  induction services generalizing index candidateIds normalized with
  | nil => simp [normalizeServices, eq_comm]
  | cons service rest ih =>
    simp only [normalizeServices, forall_mem_cons, map_cons, nodup_cons]
    split
    · rename_i invalid
      simp [show ¬ValidService service from fun valid => invalid valid.identifier]
    rename_i identifier
    split
    · rename_i seen
      simp [seen]
    rename_i fresh
    split
    · rename_i many
      simp [show ¬ValidService service from fun valid => many.not_ge valid.few]
    rename_i few
    split
    · rename_i error refused
      have invalid : ¬ValidService service := by
        intro valid
        have accepted : checkPorts service.candidateId service.ports 0 [] = .ok () :=
          checkPorts_eq_ok_iff.2 ⟨valid.ports, valid.distinct, by simp⟩
        rw [accepted] at refused
        cases refused
      simp [invalid]
    rename_i accepted
    obtain ⟨ports, distinct, -⟩ := checkPorts_eq_ok_iff.1 accepted
    have valid : ValidService service :=
      ⟨not_not.1 identifier, not_lt.1 few, ports, distinct⟩
    simp only [mem_map, not_exists, not_and, valid, true_and]
    split
    · rename_i error refused
      simp only [reduceCtorEq, false_iff, not_and]
      intro ⟨validRest, ⟨first, distinctRest⟩, _, apart⟩
      have acceptedRest : normalizeServices rest (index + 1) (service.candidateId :: candidateIds) =
            .ok (rest.map RuntimeServiceSelection.sorted) := by
        refine ih.2 ⟨⟨validRest, distinctRest, fun other inside => ?_⟩, rfl⟩
        rw [mem_cons, not_or]
        exact ⟨first other inside, apart other inside⟩
      rw [acceptedRest] at refused
      cases refused
    rename_i services acceptedRest
    obtain ⟨⟨validRest, distinctRest, apart⟩, rfl⟩ := ih.1 acceptedRest
    simp only [mem_cons, not_or] at apart
    simp only [Except.ok.injEq]
    constructor
    · rintro rfl
      exact ⟨⟨validRest, ⟨fun other inside => (apart other inside).1, distinctRest⟩,
        fresh, fun other inside => (apart other inside).2⟩, rfl⟩
    rintro ⟨-, rfl⟩
    rfl

structure ValidRuntime (runtime : RuntimePlanSelection) : Prop where
  digest : validAnalysisDigest runtime.analysisDigest = true
  nonempty : runtime.services ≠ []
  few : runtime.services.length ≤ maxRuntimeServices
  services : ∀ service ∈ runtime.services, ValidService service
  distinct : (runtime.services.map (·.candidateId)).Nodup

def RuntimePlanSelection.sorted (runtime : RuntimePlanSelection) : RuntimePlanSelection :=
  { runtime with services := sortServices (runtime.services.map RuntimeServiceSelection.sorted) }

theorem normalizeRuntime_eq_ok_iff {runtime normalized : RuntimePlanSelection} :
    normalizeRuntime runtime = .ok normalized ↔
      ValidRuntime runtime ∧ normalized = runtime.sorted := by
  rw [normalizeRuntime]
  split
  · rename_i invalid
    simp [show ¬ValidRuntime runtime from fun valid => invalid valid.digest]
  rename_i digest
  split
  · rename_i empty
    simp [show ¬ValidRuntime runtime from fun valid => valid.nonempty empty]
  rename_i nonempty
  split
  · rename_i many
    simp [show ¬ValidRuntime runtime from fun valid => many.not_ge valid.few]
  rename_i few
  split
  · rename_i error refused
    have invalid : ¬ValidRuntime runtime := by
      intro valid
      have accepted : normalizeServices runtime.services 0 [] =
          .ok (runtime.services.map RuntimeServiceSelection.sorted) :=
        normalizeServices_eq_ok_iff.2 ⟨⟨valid.services, valid.distinct, by simp⟩, rfl⟩
      rw [accepted] at refused
      cases refused
    simp [invalid]
  rename_i services accepted
  obtain ⟨⟨valid, distinct, -⟩, rfl⟩ := normalizeServices_eq_ok_iff.1 accepted
  have validRuntime : ValidRuntime runtime :=
    ⟨not_not.1 digest, nonempty, not_lt.1 few, valid, distinct⟩
  simp only [Except.ok.injEq, validRuntime, true_and]
  exact eq_comm

theorem normalizeOptionalRuntime_eq_ok_iff {runtime normalized : Option RuntimePlanSelection} :
    normalizeOptionalRuntime runtime = .ok normalized ↔
      (∀ plan, runtime = some plan → ValidRuntime plan) ∧
        normalized = runtime.map RuntimePlanSelection.sorted := by
  cases runtime with
  | none => simp [normalizeOptionalRuntime, eq_comm]
  | some plan =>
    simp only [normalizeOptionalRuntime, Option.some.injEq, forall_eq', Option.map_some]
    split
    · rename_i error refused
      simp only [reduceCtorEq, false_iff, not_and]
      intro valid
      exact nomatch refused.symm.trans (normalizeRuntime_eq_ok_iff.2 ⟨valid, rfl⟩)
    rename_i normal accepted
    obtain ⟨valid, rfl⟩ := normalizeRuntime_eq_ok_iff.1 accepted
    simp [valid, eq_comm]

/-- One service with its ports in any order. -/
structure SameService (first second : RuntimeServiceSelection) : Prop where
  candidateId : first.candidateId = second.candidateId
  ports : first.ports.Perm second.ports

/-- One runtime plan with its services, and the ports of each, in any order. -/
structure SameRuntime (first second : RuntimePlanSelection) : Prop where
  analysisDigest : first.analysisDigest = second.analysisDigest
  services : ∃ middle, first.services.Perm middle ∧ List.Forall₂ SameService middle second.services

theorem sortPorts_perm (ports : List RuntimePortSelection) : (sortPorts ports).Perm ports :=
  perm_insertionSort _ _

theorem sortServices_perm (services : List RuntimeServiceSelection) :
    (sortServices services).Perm services :=
  perm_insertionSort _ _

variable {first second : RuntimeServiceSelection}

theorem SameService.symm (same : SameService first second) : SameService second first :=
  ⟨same.candidateId.symm, same.ports.symm⟩

theorem SameRuntime.symm {first second : RuntimePlanSelection} (same : SameRuntime first second) :
    SameRuntime second first := by
  obtain ⟨digest, middle, permuted, alike⟩ := same
  have back : List.Forall₂ SameService second.services middle :=
    alike.flip.imp fun _ _ related => related.symm
  have both : Relation.Comp (List.Forall₂ SameService) List.Perm second.services first.services :=
    ⟨middle, back, permuted.symm⟩
  rw [forall₂_comp_perm_eq_perm_comp_forall₂] at both
  exact ⟨digest.symm, both⟩

theorem SameService.valid
    (same : SameService first second) (valid : ValidService first) : ValidService second where
  identifier := same.candidateId ▸ valid.identifier
  few := same.ports.length_eq ▸ valid.few
  ports := fun port inside => valid.ports port (same.ports.mem_iff.2 inside)
  distinct := (same.ports.map _).nodup_iff.1 valid.distinct

theorem SameService.sorted_eq
    (same : SameService first second) (valid : ValidService first) : first.sorted = second.sorted := by
  have ports : sortPorts first.ports = sortPorts second.ports :=
    insertionSort_key_eq_of_perm (fun port : RuntimePortSelection => port.portId)
      same.ports valid.distinct
  rw [RuntimeServiceSelection.sorted, RuntimeServiceSelection.sorted, ports]
  cases first
  cases second
  cases same.candidateId
  rfl

theorem map_candidateId_eq {first second : List RuntimeServiceSelection}
    (same : List.Forall₂ SameService first second) :
    first.map (·.candidateId) = second.map (·.candidateId) := by
  induction same with
  | nil => rfl
  | cons head _ ih => rw [map_cons, map_cons, head.candidateId, ih]

theorem map_sorted_eq {first second : List RuntimeServiceSelection}
    (same : List.Forall₂ SameService first second)
    (valid : ∀ service ∈ first, ValidService service) :
    first.map RuntimeServiceSelection.sorted = second.map RuntimeServiceSelection.sorted := by
  induction same with
  | nil => rfl
  | cons head _ ih =>
    rw [forall_mem_cons] at valid
    rw [map_cons, map_cons, head.sorted_eq valid.1, ih valid.2]

theorem SameRuntime.valid {first second : RuntimePlanSelection} (same : SameRuntime first second)
    (valid : ValidRuntime first) : ValidRuntime second := by
  obtain ⟨digest, middle, permuted, alike⟩ := same
  have lengths : first.services.length = second.services.length :=
    permuted.length_eq.trans alike.length_eq
  refine ⟨digest ▸ valid.digest, ?_, lengths ▸ valid.few, ?_, ?_⟩
  · rw [← length_pos_iff_ne_nil, ← lengths]
    exact length_pos_iff_ne_nil.2 valid.nonempty
  · intro service inside
    obtain ⟨other, member, pair⟩ := Traverse.forall₂_mem_left alike.flip inside
    exact pair.valid (valid.services other (permuted.mem_iff.2 (of_mem_zip member).2))
  rw [← map_candidateId_eq alike]
  exact (permuted.map _).nodup_iff.1 valid.distinct

theorem SameRuntime.sorted_eq {first second : RuntimePlanSelection} (same : SameRuntime first second)
    (valid : ValidRuntime first) : first.sorted = second.sorted := by
  obtain ⟨digest, middle, permuted, alike⟩ := same
  have inMiddle : ∀ service ∈ middle, ValidService service :=
    fun service inside => valid.services service (permuted.mem_iff.2 inside)
  have distinct : ((first.services.map RuntimeServiceSelection.sorted).map (·.candidateId)).Nodup := by
    rw [map_map]
    exact valid.distinct
  have services : sortServices (first.services.map RuntimeServiceSelection.sorted) =
      sortServices (second.services.map RuntimeServiceSelection.sorted) := by
    rw [← map_sorted_eq alike inMiddle]
    exact insertionSort_key_eq_of_perm
      (fun service : RuntimeServiceSelection => service.candidateId) (permuted.map _) distinct
  rw [RuntimePlanSelection.sorted, RuntimePlanSelection.sorted, services]
  cases first
  cases second
  cases digest
  rfl

theorem SameRuntime.of_sorted (runtime : RuntimePlanSelection) :
    SameRuntime runtime runtime.sorted := by
  refine ⟨rfl, ?_⟩
  have each : List.Forall₂ SameService runtime.services
      (runtime.services.map RuntimeServiceSelection.sorted) :=
    forall₂_map_right_iff.2
      (forall₂_same.2 fun service _ => ⟨rfl, (sortPorts_perm service.ports).symm⟩)
  have both : Relation.Comp (List.Forall₂ SameService) List.Perm runtime.services
      runtime.sorted.services := ⟨_, each, (sortServices_perm _).symm⟩
  rwa [forall₂_comp_perm_eq_perm_comp_forall₂] at both

theorem normalizeWorkspaceTitle_canonical {title canonical : String}
    (accepted : normalizeWorkspaceTitle title = .ok canonical) :
    normalizeWorkspaceTitle canonical = normalizeWorkspaceTitle title := by
  have trimmed : canonical = trim title := by
    simp only [normalizeWorkspaceTitle] at accepted
    split at accepted
    · cases accepted
    split at accepted
    · cases accepted
    split at accepted
    · cases accepted
    exact (Except.ok.inj accepted).symm
  rw [trimmed, normalizeWorkspaceTitle, normalizeWorkspaceTitle, trim_trim]

theorem isWhitespace_eq_false {c : Char} (above : 65 ≤ c.toNat) (below : c.toNat ≤ 122) :
    isWhitespace c = false := by
  simp only [isWhitespace, Bool.or_eq_false_iff, Bool.and_eq_false_iff, decide_eq_false_iff_not,
    beq_eq_false_iff_ne]
  omega

theorem isWhitespace_toUpper (c : Char) : isWhitespace c.toUpper = isWhitespace c := by
  by_cases lower : c.isLower
  · have range : 97 ≤ c.toNat ∧ c.toNat ≤ 122 := by
      simpa [Char.isLower, UInt32.le_iff_toNat_le] using lower
    have capital : c.toUpper.toNat = c.toNat - 32 := by
      rw [Char.toUpper_eq_of_isLower lower, Char.toNat_ofNat,
        if_pos (show (c.toNat - 32).isValidChar from Or.inl (by omega))]
    rw [isWhitespace_eq_false (by omega) (by omega), isWhitespace_eq_false (by omega) (by omega)]
  rw [Char.toUpper_eq_of_not_isLower lower]

theorem toAsciiUppercase_trim_canonical (text : String) :
    toAsciiUppercase (trim (toAsciiUppercase (trim text))) = toAsciiUppercase (trim text) := by
  have trimmed : trimChars ((trimChars text.toList).map Char.toUpper) =
      (trimChars text.toList).map Char.toUpper := by
    have kept : isWhitespace ∘ Char.toUpper = isWhitespace := funext isWhitespace_toUpper
    have both := trimChars_trimChars text.toList
    rw [trimChars, dropWhile_map, kept, List.rdropWhile, ← map_reverse,
      dropWhile_map, kept, ← map_reverse]
    exact congrArg (List.map Char.toUpper) both
  simp only [toAsciiUppercase, trim, String.toList_ofList, trimmed, map_map]
  congr 1
  exact map_congr_left fun c _ => Char.toUpper_toUpper_eq_toUpper c

theorem normalizeIntent_canonical {intent canonical : WorkspaceIntent}
    (accepted : normalizeIntent intent = .ok canonical) :
    normalizeIntent canonical = normalizeIntent intent := by
  cases intent with
  | jira issueKey =>
    simp only [normalizeIntent] at accepted
    split at accepted
    · cases accepted
    cases accepted
    simp only [normalizeIntent, toAsciiUppercase_trim_canonical]
  | openProject workPackageId displayId =>
    simp only [normalizeIntent] at accepted
    split at accepted
    · cases accepted
    cases accepted
    simp only [normalizeIntent, trim_trim]
  | repositorySet label =>
    simp only [normalizeIntent] at accepted
    split at accepted
    · cases accepted
    split at accepted
    · cases accepted
    split at accepted
    · cases accepted
    cases accepted
    simp only [normalizeIntent, trim_trim]

/-! ### Repositories -/

def WorkspaceRepositoryRequest.trimmed (repository : WorkspaceRepositoryRequest) :
    WorkspaceRepositoryRequest :=
  { repository with label := trim repository.label, baseRef := trim repository.baseRef }

theorem trimmed_trimmed (repository : WorkspaceRepositoryRequest) :
    repository.trimmed.trimmed = repository.trimmed := by
  simp [WorkspaceRepositoryRequest.trimmed]

/-- The checks of a single repository, after its texts are trimmed. -/
structure ValidRepository (repository : WorkspaceRepositoryRequest) : Prop where
  nonempty : repository.label ≠ ""
  short : repository.label.toList.length ≤ maxRepositoryLabelChars
  plain : hasControlOrPathSeparator repository.label = false
  identifier : repository.repositoryId.any (fun id => !validRepositoryId id) = false
  baseRef : validBaseRef repository.baseRef = true

section Repositories

variable (toLowercase : String → String)

/-- Two repositories that one request may name: their identifiers differ, and if their labels agree
up to case, both have one. -/
structure Apart (first second : WorkspaceRepositoryRequest) : Prop where
  identifiers : ∀ id, first.repositoryId = some id → second.repositoryId ≠ some id
  labels : toLowercase first.label = toLowercase second.label →
    first.repositoryId.isSome = true ∧ second.repositoryId.isSome = true

theorem Apart.symm {first second : WorkspaceRepositoryRequest}
    (apart : Apart toLowercase first second) : Apart toLowercase second first where
  identifiers := fun id named same => apart.identifiers id same named
  labels := fun same => (apart.labels same.symm).symm

/-- The repository agrees with what the loop has seen. -/
structure Fresh (labels : ExtTreeMap String Bool) (repositoryIds : List String)
    (repository : WorkspaceRepositoryRequest) : Prop where
  identifier : ∀ id, repository.repositoryId = some id → id ∉ repositoryIds
  label : ∀ pinned, labels[toLowercase repository.label]? = some pinned →
    pinned = true ∧ repository.repositoryId.isSome = true

variable {labels : ExtTreeMap String Bool} {repositoryIds : List String}

theorem fresh_insert_iff
    {first second : WorkspaceRepositoryRequest} (fresh : Fresh toLowercase labels repositoryIds first) :
    Fresh toLowercase (labels.insert (toLowercase first.label) first.repositoryId.isSome)
        (first.repositoryId.toList ++ repositoryIds) second ↔
      Apart toLowercase first second ∧ Fresh toLowercase labels repositoryIds second := by
  constructor
  · intro later
    refine ⟨⟨?_, ?_⟩, ?_, ?_⟩
    · intro id named same
      exact later.identifier id same (by simp [named])
    · intro same
      exact later.label _ (by simp [same])
    · intro id named inside
      exact later.identifier id named (mem_append_right _ inside)
    intro pinned seen
    by_cases same : toLowercase first.label = toLowercase second.label
    · have both := later.label first.repositoryId.isSome (by simp [same])
      exact ⟨(fresh.label pinned (by rw [same]; exact seen)).1, both.2⟩
    exact later.label pinned (by simpa [ExtTreeMap.getElem?_insert, same] using seen)
  intro ⟨apart, later⟩
  refine ⟨?_, ?_⟩
  · intro id named inside
    rcases mem_append.1 inside with own | earlier
    · exact apart.identifiers id (by simpa [eq_comm] using own) named
    exact later.identifier id named earlier
  intro pinned seen
  by_cases same : toLowercase first.label = toLowercase second.label
  · have recorded : first.repositoryId.isSome = pinned := by
      simpa [ExtTreeMap.getElem?_insert, same] using seen
    exact recorded ▸ apart.labels same
  exact later.label pinned (by simpa [ExtTreeMap.getElem?_insert, same] using seen)

variable {repository : WorkspaceRepositoryRequest}

theorem fresh_iff : Fresh toLowercase labels repositoryIds repository ↔
      (repository.repositoryId.any fun id => id ∈ repositoryIds) = false ∧
        ((labels[toLowercase repository.label]?).any fun previousPinned =>
          !previousPinned || !repository.repositoryId.isSome) = false := by
  simp only [Option.any_eq_false, decide_eq_false_iff_not, Bool.or_eq_false_iff, Bool.not_eq_false']
  exact ⟨fun fresh => ⟨fresh.identifier, fresh.label⟩, fun ⟨identifier, label⟩ => ⟨identifier, label⟩⟩

variable {index : ℕ}

theorem normalizeRepositories_cons_eq_ok_iff {rest normalized : List WorkspaceRepositoryRequest} :
    normalizeRepositories toLowercase (repository :: rest) index labels repositoryIds =
        .ok normalized ↔ (ValidRepository repository.trimmed ∧
        Fresh toLowercase labels repositoryIds repository.trimmed) ∧ ∃ others,
        normalizeRepositories toLowercase rest (index + 1)
          (labels.insert (toLowercase repository.trimmed.label)
            repository.trimmed.repositoryId.isSome)
          (repository.trimmed.repositoryId.toList ++ repositoryIds) = .ok others ∧
        normalized = repository.trimmed :: others := by
  simp only [normalizeRepositories]
  split
  · rename_i empty
    simp [show ¬ValidRepository repository.trimmed from fun valid => valid.nonempty empty]
  rename_i nonempty
  split
  · rename_i long
    simp [show ¬ValidRepository repository.trimmed from fun valid => long.not_ge valid.short]
  rename_i short
  split
  · rename_i separated
    simp [show ¬ValidRepository repository.trimmed from fun valid =>
      nomatch separated.symm.trans valid.plain]
  rename_i plain
  split
  · rename_i invalid
    simp [show ¬ValidRepository repository.trimmed from fun valid =>
      nomatch invalid.symm.trans valid.identifier]
  rename_i identifier
  split
  · rename_i repeated
    simp [show ¬Fresh toLowercase labels repositoryIds repository.trimmed from fun fresh =>
      nomatch repeated.symm.trans ((fresh_iff toLowercase).1 fresh).1]
  rename_i newIdentifier
  split
  · rename_i invalid
    simp [show ¬ValidRepository repository.trimmed from fun valid => invalid valid.baseRef]
  rename_i baseRef
  have valid : ValidRepository repository.trimmed :=
    ⟨nonempty, not_lt.1 short, Bool.eq_false_iff.2 plain, Bool.eq_false_iff.2 identifier,
      not_not.1 baseRef⟩
  split
  · rename_i ambiguous
    simp [show ¬Fresh toLowercase labels repositoryIds repository.trimmed from
      fun fresh => nomatch ambiguous.symm.trans ((fresh_iff toLowercase).1 fresh).2]
  rename_i unambiguous
  have fresh : Fresh toLowercase labels repositoryIds repository.trimmed :=
    (fresh_iff toLowercase).2 ⟨Bool.eq_false_iff.2 newIdentifier, Bool.eq_false_iff.2 unambiguous⟩
  simp only [valid, fresh, true_and, and_self]
  split
  · rename_i error refused
    constructor
    · intro accepted
      cases accepted
    intro ⟨others, accepted, _⟩
    exact nomatch refused.symm.trans accepted
  rename_i others accepted
  constructor
  · intro same
    exact ⟨others, accepted, (Except.ok.inj same).symm⟩
  intro ⟨found, again, same⟩
  rw [same, Except.ok.inj (accepted.symm.trans again)]
  rfl

variable {repositories : List WorkspaceRepositoryRequest}

theorem normalizeRepositories_eq_ok_iff {normalized : List WorkspaceRepositoryRequest} :
    normalizeRepositories toLowercase repositories index labels repositoryIds = .ok normalized ↔
      ((∀ repository ∈ repositories.map (·.trimmed), ValidRepository repository) ∧
        (repositories.map (·.trimmed)).Pairwise (Apart toLowercase) ∧
        ∀ repository ∈ repositories.map (·.trimmed),
          Fresh toLowercase labels repositoryIds repository) ∧
      normalized = repositories.map (·.trimmed) := by
  induction repositories generalizing index labels repositoryIds normalized with
  | nil => simp [normalizeRepositories, eq_comm]
  | cons repository rest ih =>
    rw [normalizeRepositories_cons_eq_ok_iff]
    simp only [map_cons, forall_mem_cons, pairwise_cons]
    constructor
    · intro ⟨⟨valid, fresh⟩, others, accepted, same⟩
      obtain ⟨⟨validRest, apart, later⟩, rfl⟩ := ih.1 accepted
      have both := fun other inside => (fresh_insert_iff toLowercase fresh).1 (later other inside)
      exact ⟨⟨⟨valid, validRest⟩, ⟨fun other inside => (both other inside).1, apart⟩, fresh,
        fun other inside => (both other inside).2⟩, same⟩
    intro ⟨⟨⟨valid, validRest⟩, ⟨first, apart⟩, fresh, later⟩, same⟩
    have rest := fun other inside =>
      (fresh_insert_iff toLowercase fresh).2 ⟨first other inside, later other inside⟩
    exact ⟨⟨valid, fresh⟩, _, ih.2 ⟨⟨validRest, apart, rest⟩, rfl⟩, same⟩

structure ValidRepositories (repositories : List WorkspaceRepositoryRequest) : Prop where
  nonempty : repositories ≠ []
  few : repositories.length ≤ maxRepositoriesPerWorkspace
  valid : ∀ repository ∈ repositories, ValidRepository repository
  apart : repositories.Pairwise (Apart toLowercase)

theorem ValidRepositories.perm {first second : List WorkspaceRepositoryRequest}
    (valid : ValidRepositories toLowercase first) (same : first.Perm second) :
    ValidRepositories toLowercase second where
  nonempty := fun empty => valid.nonempty (perm_nil.1 (empty ▸ same))
  few := same.length_eq ▸ valid.few
  valid := fun repository inside => valid.valid repository (same.mem_iff.2 inside)
  apart := same.pairwise valid.apart (Apart.symm toLowercase)

theorem nodup_repositoryKey (apart : repositories.Pairwise (Apart toLowercase)) :
    (repositories.map fun repository =>
      repositoryKey toLowercase repository.repositoryId repository.label
        repository.baseRef).Nodup := by
  rw [List.Nodup, pairwise_map]
  refine apart.imp fun {first second} apart same => ?_
  have label : toLowercase first.label = toLowercase second.label :=
    congrArg (fun key => (ofLex key).1) same
  have identifier : first.repositoryId = second.repositoryId :=
    congrArg (fun key => (ofLex (ofLex key).2).1) same
  obtain ⟨id, named⟩ := Option.isSome_iff_exists.1 (apart.labels label).1
  exact apart.identifiers id named (identifier.symm.trans named)

theorem sortRepositories_eq_of_perm {first second : List WorkspaceRepositoryRequest}
    (same : first.Perm second) (apart : first.Pairwise (Apart toLowercase)) :
    sortRepositories toLowercase first = sortRepositories toLowercase second :=
  insertionSort_key_eq_of_perm _ same (nodup_repositoryKey toLowercase apart)

theorem sortRepositories_perm (repositories : List WorkspaceRepositoryRequest) :
    (sortRepositories toLowercase repositories).Perm repositories :=
  perm_insertionSort _ _

/-! ### Requests -/

theorem fresh_empty (repository : WorkspaceRepositoryRequest) :
    Fresh toLowercase ∅ [] repository where
  identifier := fun _ _ => not_mem_nil
  label := fun _ seen => by simp at seen

theorem normalizeRepositories_eq_of_valid
    (valid : ValidRepositories toLowercase (repositories.map (·.trimmed))) :
    normalizeRepositories toLowercase repositories 0 ∅ [] = .ok (repositories.map (·.trimmed)) :=
  (normalizeRepositories_eq_ok_iff toLowercase).2
    ⟨⟨valid.valid, valid.apart, fun repository _ => fresh_empty toLowercase repository⟩, rfl⟩

variable {first second normalized : CreateWorkspaceRequest}

variable {request : CreateWorkspaceRequest}

theorem normalize_eq_ok_iff : request.normalize toLowercase = .ok normalized ↔
      normalizeWorkspaceTitle request.title = .ok normalized.title ∧
        normalizeIntent request.intent = .ok normalized.intent ∧
        (∀ plan, request.runtime = some plan → ValidRuntime plan) ∧
        ValidRepositories toLowercase (request.repositories.map (·.trimmed)) ∧ normalized =
          { request with
            title := normalized.title
            intent := normalized.intent
            runtime := request.runtime.map (·.sorted)
            repositories :=
              sortRepositories toLowercase (request.repositories.map (·.trimmed)) } := by
  rw [CreateWorkspaceRequest.normalize]
  cases titled : normalizeWorkspaceTitle request.title with
  | error error => simp
  | ok title =>
    cases intended : normalizeIntent request.intent with
    | error error => simp
    | ok intent =>
      cases planned : normalizeOptionalRuntime request.runtime with
      | error error =>
        have invalid : ¬∀ plan, request.runtime = some plan → ValidRuntime plan := by
          intro valid
          exact nomatch planned.symm.trans (normalizeOptionalRuntime_eq_ok_iff.2 ⟨valid, rfl⟩)
        simp [invalid]
      | ok runtime =>
        obtain ⟨validRuntime, rfl⟩ := normalizeOptionalRuntime_eq_ok_iff.1 planned
        simp only [Except.ok.injEq]
        split
        · rename_i empty
          have invalid : ¬ValidRepositories toLowercase
              (request.repositories.map (·.trimmed)) :=
            fun valid => valid.nonempty (by rw [empty, map_nil])
          simp [invalid]
        rename_i nonempty
        split
        · rename_i many
          have invalid : ¬ValidRepositories toLowercase
              (request.repositories.map (·.trimmed)) :=
            fun valid => many.not_ge (by simpa using valid.few)
          simp [invalid]
        rename_i few
        split
        · rename_i error refused
          have invalid : ¬ValidRepositories toLowercase
              (request.repositories.map (·.trimmed)) := fun valid =>
            nomatch refused.symm.trans
              (normalizeRepositories_eq_of_valid toLowercase valid)
          simp [invalid]
        rename_i repositories accepted
        obtain ⟨⟨each, apart, -⟩, rfl⟩ :=
          (normalizeRepositories_eq_ok_iff toLowercase).1 accepted
        have valid : ValidRepositories toLowercase
            (request.repositories.map (·.trimmed)) :=
          ⟨by simpa using nonempty, by simpa using not_lt.1 few, each, apart⟩
        constructor
        · intro same
          cases same
          exact ⟨rfl, rfl, validRuntime, valid, rfl⟩
        intro ⟨sameTitle, sameIntent, _, _, same⟩
        rw [same, ← sameTitle, ← sameIntent]

/-- The same request with its repositories, its services and the ports of each service in any
order. -/
structure SameUpToOrder (first second : CreateWorkspaceRequest) : Prop where
  intent : first.intent = second.intent
  title : first.title = second.title
  preferredProvider : first.preferredProvider = second.preferredProvider
  planning : first.planning = second.planning
  repositories : first.repositories.Perm second.repositories
  runtime : Option.Rel SameRuntime first.runtime second.runtime

/-- Requests that `normalize` does not tell apart: texts may also differ by what it trims. -/
structure Alike (first second : CreateWorkspaceRequest) : Prop where
  intent : normalizeIntent first.intent = normalizeIntent second.intent
  title : normalizeWorkspaceTitle first.title = normalizeWorkspaceTitle second.title
  preferredProvider : first.preferredProvider = second.preferredProvider
  planning : first.planning = second.planning
  repositories : (first.repositories.map (·.trimmed)).Perm (second.repositories.map (·.trimmed))
  runtime : Option.Rel SameRuntime first.runtime second.runtime

theorem SameUpToOrder.alike (same : SameUpToOrder first second) : Alike first second where
  intent := by rw [same.intent]
  title := by rw [same.title]
  __ := same
  repositories := same.repositories.map _

theorem sorted_eq_of_rel {first second : Option RuntimePlanSelection}
    (same : Option.Rel SameRuntime first second)
    (valid : ∀ plan, first = some plan → ValidRuntime plan) :
    (∀ plan, second = some plan → ValidRuntime plan) ∧
      first.map RuntimePlanSelection.sorted = second.map RuntimePlanSelection.sorted := by
  cases same with
  | none => exact ⟨valid, rfl⟩
  | @some plan other related =>
    have validPlan := valid plan rfl
    refine ⟨fun found named => ?_, ?_⟩
    · cases named
      exact related.valid validPlan
    rw [Option.map_some, Option.map_some, related.sorted_eq validPlan]

theorem rel_symm {first second : Option RuntimePlanSelection}
    (same : Option.Rel SameRuntime first second) : Option.Rel SameRuntime second first := by
  cases same with
  | none => exact .none
  | some related => exact .some related.symm

theorem rel_sorted (runtime : Option RuntimePlanSelection) :
    Option.Rel SameRuntime runtime (runtime.map RuntimePlanSelection.sorted) := by
  cases runtime with
  | none => exact .none
  | some plan => exact .some (SameRuntime.of_sorted plan)

theorem normalize_alike
    (alike : Alike first second) (accepted : first.normalize toLowercase = .ok normalized) :
    second.normalize toLowercase = .ok normalized := by
  obtain ⟨title, intent, runtime, repositories, same⟩ :=
    (normalize_eq_ok_iff toLowercase).1 accepted
  obtain ⟨validRuntime, sameRuntime⟩ := sorted_eq_of_rel alike.runtime runtime
  refine (normalize_eq_ok_iff toLowercase).2
    ⟨alike.title.symm.trans title, alike.intent.symm.trans intent, validRuntime,
      repositories.perm toLowercase alike.repositories, ?_⟩
  rw [← sameRuntime, ← sortRepositories_eq_of_perm toLowercase alike.repositories repositories.apart]
  conv_lhs => rw [same, alike.preferredProvider, alike.planning]

theorem alike_of_normalize
    (accepted : request.normalize toLowercase = .ok normalized) : Alike request normalized := by
  obtain ⟨title, intent, -, -, same⟩ := (normalize_eq_ok_iff toLowercase).1 accepted
  have repositories : normalized.repositories =
      sortRepositories toLowercase (request.repositories.map (·.trimmed)) :=
    congrArg CreateWorkspaceRequest.repositories same
  have runtime : normalized.runtime = request.runtime.map (·.sorted) :=
    congrArg CreateWorkspaceRequest.runtime same
  have trimmedOnce : (request.repositories.map (·.trimmed)).map (·.trimmed) =
      request.repositories.map (·.trimmed) := by
    rw [map_map]
    exact map_congr_left fun repository _ => trimmed_trimmed repository
  exact
    { intent := (normalizeIntent_canonical intent).symm
      title := (normalizeWorkspaceTitle_canonical title).symm
      preferredProvider := (congrArg CreateWorkspaceRequest.preferredProvider same).symm
      planning := (congrArg CreateWorkspaceRequest.planning same).symm
      repositories := by
        rw [repositories]
        refine List.Perm.trans ?_ ((sortRepositories_perm toLowercase _).map _).symm
        rw [trimmedOnce]
      runtime := by
        rw [runtime]
        exact rel_sorted request.runtime }

theorem SameUpToOrder.symm (same : SameUpToOrder first second) : SameUpToOrder second first where
  intent := same.intent.symm
  title := same.title.symm
  preferredProvider := same.preferredProvider.symm
  planning := same.planning.symm
  repositories := same.repositories.symm
  runtime := rel_symm same.runtime

/-- `normalize` computes a canonical form: the form is its own form, and requests that differ by the
order of repositories, services and ports have the same one or are both rejected. -/
theorem normalize_canonical : (∀ request normalized : CreateWorkspaceRequest,
      request.normalize toLowercase = .ok normalized →
        normalized.normalize toLowercase = .ok normalized) ∧
    ∀ first second : CreateWorkspaceRequest, SameUpToOrder first second →
      (∃ normalized, first.normalize toLowercase = .ok normalized ∧
        second.normalize toLowercase = .ok normalized) ∨
      (∃ error, first.normalize toLowercase = .error error) ∧
        ∃ error, second.normalize toLowercase = .error error := by
  refine ⟨fun request normalized accepted =>
    normalize_alike toLowercase (alike_of_normalize toLowercase accepted) accepted, ?_⟩
  intro first second same
  cases atFirst : first.normalize toLowercase with
  | ok normalized =>
    exact .inl ⟨normalized, rfl, normalize_alike toLowercase same.alike atFirst⟩
  | error error =>
    refine .inr ⟨⟨error, rfl⟩, ?_⟩
    cases atSecond : second.normalize toLowercase with
    | error other => exact ⟨other, rfl⟩
    | ok normalized =>
      have accepted := normalize_alike toLowercase same.symm.alike atSecond
      exact nomatch atFirst.symm.trans accepted

end Repositories

def orderedRequest : CreateWorkspaceRequest :=
  { Store.sampleRequest with
    repositories :=
      [{ repositoryId := none, label := "app", baseRef := "main" },
        { repositoryId := none, label := "web", baseRef := "main" }] }

def reorderedRequest : CreateWorkspaceRequest :=
  { Store.sampleRequest with
    repositories :=
      [{ repositoryId := none, label := "web", baseRef := "main" },
        { repositoryId := none, label := "app", baseRef := "main" }] }

theorem orderedRequest_same : SameUpToOrder orderedRequest reorderedRequest where
  intent := rfl
  title := rfl
  preferredProvider := rfl
  planning := rfl
  repositories := List.Perm.swap _ _ _
  runtime := .none

theorem normalize_orderedRequest :
    orderedRequest.normalize Store.sampleStore.toLowercase = .ok orderedRequest := by
  decide +kernel

theorem normalize_canonical_reordered :
    orderedRequest.normalize Store.sampleStore.toLowercase = .ok orderedRequest ∧
      reorderedRequest.normalize Store.sampleStore.toLowercase = .ok orderedRequest := by
  have canonical := normalize_canonical Store.sampleStore.toLowercase
  have again := canonical.1 orderedRequest orderedRequest normalize_orderedRequest
  refine ⟨again, ?_⟩
  rcases canonical.2 orderedRequest reorderedRequest orderedRequest_same with
    ⟨normalized, first, second⟩ | ⟨⟨error, refused⟩, _⟩
  · rw [second, first.symm.trans again]
  · exact nomatch refused.symm.trans again

end Wts.Workspace
