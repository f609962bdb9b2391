/-
Module: Wts.Proofs.BoundaryLeases
Purpose: The leases of a compiled boundary.
Trusted boundary: none
Main exports: leases_isolated_iff
-/
import Wts.Proofs.BoundaryOrder

namespace Wts.Core

open List Text FirstFit

/-- The smallest port from a default port upwards that is not taken. -/
structure FirstFree (taken : Finset UInt16) (defaultPort port : UInt16) : Prop where
  above : defaultPort ≤ port
  free : port ∉ taken
  least : ∀ lower, defaultPort ≤ lower → lower < port → lower ∈ taken

variable {port defaultPort : UInt16}

theorem toNat_mem_portSlots {ports : Finset UInt16} :
    port.toNat ∈ portSlots ports ↔ port ∈ ports := by
  have small : port.toNat ≤ maxPort := Nat.le_pred_of_lt port.toNat_lt
  rw [mem_portSlots_ofNat small, UInt16.ofNat_toNat]

variable {taken occupiedPorts : Finset UInt16}

theorem firstFree_eq_some_toNat_iff :
    firstFree maxPort (portSlots taken) defaultPort.toNat = some port.toNat ↔
      FirstFree taken defaultPort port := by
  rw [firstFree_eq_some_iff, toNat_mem_portSlots]
  constructor
  · intro ⟨above, _, free, least⟩
    exact ⟨above, free, fun lower from_ below => toNat_mem_portSlots.1 (least _ from_ below)⟩
  intro first
  refine ⟨first.above, Nat.le_pred_of_lt port.toNat_lt, first.free, fun x lower below => ?_⟩
  have small : x < UInt16.size := below.trans port.toNat_lt
  have value : (UInt16.ofNat x).toNat = x := UInt16.toNat_ofNat_of_lt small
  have inside : UInt16.ofNat x ∈ taken :=
    first.least _ (UInt16.le_iff_toNat_le.2 (by rw [value]; exact lower))
      (UInt16.lt_iff_toNat_lt.2 (by rw [value]; exact below))
  rw [← value]
  exact toNat_mem_portSlots.2 inside

theorem findLoopbackPort_eq_some_iff :
    findLoopbackPort taken defaultPort = some port ↔ FirstFree taken defaultPort port := by
  rw [findLoopbackPort_eq, ← firstFree_eq_some_toNat_iff, Option.map_eq_some_iff]
  constructor
  · intro ⟨slot, found, same⟩
    have small := (firstFree_eq_some_iff.1 found).2.1
    have value : (UInt16.ofNat slot).toNat = slot :=
      UInt16.toNat_ofNat_of_lt (Nat.lt_succ_of_le small)
    rw [← same, value, found]
  intro found
  exact ⟨port.toNat, found, UInt16.ofNat_toNat⟩

theorem findLoopbackPort_eq_none_iff :
    findLoopbackPort taken defaultPort = none ↔ ∀ port, defaultPort ≤ port → port ∈ taken := by
  rw [findLoopbackPort_eq, Option.map_eq_none_iff, firstFree_eq_none_iff]
  constructor
  · intro full port above
    exact toNat_mem_portSlots.1 (full port.toNat above (Nat.le_pred_of_lt port.toNat_lt))
  intro full x lower upper
  have value : (UInt16.ofNat x).toNat = x :=
    UInt16.toNat_ofNat_of_lt (Nat.lt_succ_of_le upper)
  have inside : UInt16.ofNat x ∈ taken :=
    full _ (UInt16.le_iff_toNat_le.2 (by rw [value]; exact lower))
  rw [← value]
  exact toNat_mem_portSlots.2 inside

/-! ### The loop over the services -/

/-- Each service has the first free port, given what is taken and what was leased before it. -/
def Served (taken : Finset UInt16) : List ServiceSpec → List UInt16 → Prop
  | [], [] => True
  | service :: services, port :: ports =>
    FirstFree taken service.defaultPort port ∧ Served (insert port taken) services ports
  | _, _ => False

def leaseAt (networkNamespace : String) (service : ServiceSpec) (port : UInt16) : RuntimeLease where
  serviceId := service.id
  loopbackPort := port
  hostname := slug service.id ++ "." ++ networkNamespace ++ ".wts"
  networkNamespace := networkNamespace

variable {networkNamespace : String} {services : List ServiceSpec}

theorem leaseServices_iff_served {leases : List RuntimeLease} :
    leaseServices networkNamespace services taken = .ok leases ↔
      ∃ ports, Served taken services ports ∧
        leases = List.zipWith (leaseAt networkNamespace) services ports := by
  induction services generalizing taken leases with
  | nil =>
    simp only [leaseServices, Except.ok.injEq]
    constructor
    · intro same
      exact ⟨[], trivial, same.symm⟩
    rintro ⟨ports, _, same⟩
    rw [same, zipWith_nil_left]
  | cons service services ih =>
    rw [leaseServices]
    cases found : findLoopbackPort taken service.defaultPort with
    | none =>
      simp only [reduceCtorEq, false_iff, not_exists, not_and]
      intro ports served
      cases ports with
      | nil => exact served.elim
      | cons port ports =>
        cases found.symm.trans (findLoopbackPort_eq_some_iff.2 served.1)
    | some port =>
      have first := findLoopbackPort_eq_some_iff.1 found
      constructor
      · intro done
        cases later : leaseServices networkNamespace services (insert port taken) with
        | error error => simp [later] at done
        | ok others =>
          obtain ⟨ports, served, rfl⟩ := ih.1 later
          simp only [later, Except.ok.injEq] at done
          exact ⟨port :: ports, ⟨first, served⟩, done.symm⟩
      rintro ⟨ports, served, same⟩
      cases ports with
      | nil => exact served.elim
      | cons other ports =>
        have equal : port = other :=
          Option.some.inj (found.symm.trans (findLoopbackPort_eq_some_iff.2 served.1))
        subst equal
        simp only [ih.2 ⟨ports, served.2, rfl⟩, same]
        rfl

/-- Past a service that has its port, the others decide. -/
theorem leaseServices_cons_error_iff {service : ServiceSpec} {error : BoundaryError}
    (found : findLoopbackPort taken service.defaultPort = some port) :
    leaseServices networkNamespace (service :: services) taken = .error error ↔
      leaseServices networkNamespace services (insert port taken) = .error error := by
  rw [leaseServices, found]
  dsimp only
  cases leaseServices networkNamespace services (insert port taken) with
  | error failed => rfl
  | ok leases => simp

theorem leaseServices_error_iff {error : BoundaryError} :
    leaseServices networkNamespace services taken = .error error ↔
      ∃ early service late ports, services = early ++ service :: late ∧
        Served taken early ports ∧ error = .portSpaceExhausted service.id ∧
        ∀ port, service.defaultPort ≤ port → port ∈ taken ∨ port ∈ ports := by
  induction services generalizing taken with
  | nil => simp [leaseServices]
  | cons service services ih =>
    cases found : findLoopbackPort taken service.defaultPort with
    | none =>
      rw [leaseServices, found]
      simp only [Except.error.injEq]
      have full := findLoopbackPort_eq_none_iff.1 found
      constructor
      · intro same
        exact ⟨[], service, services, [], rfl, trivial, same.symm,
          fun port above => .inl (full port above)⟩
      rintro ⟨early, other, late, ports, split, served, same, _⟩
      cases early with
      | nil =>
        rw [nil_append, List.cons.injEq] at split
        rw [same, split.1]
      | cons first early =>
        rw [cons_append, List.cons.injEq] at split
        cases ports with
        | nil => exact served.elim
        | cons port ports =>
          have free := served.1
          rw [← split.1] at free
          exact absurd (full port free.above) free.free
    | some port =>
      have first := findLoopbackPort_eq_some_iff.1 found
      rw [leaseServices_cons_error_iff found, ih]
      constructor
      · rintro ⟨early, other, late, ports, split, served, same, full⟩
        refine ⟨service :: early, other, late, port :: ports, by rw [split]; rfl,
          ⟨first, served⟩, same, fun candidate above => ?_⟩
        rcases full candidate above with inside | given
        · rcases Finset.mem_insert.1 inside with rfl | old
          · exact .inr mem_cons_self
          · exact .inl old
        exact .inr (mem_cons_of_mem _ given)
      rintro ⟨early, other, late, ports, split, served, same, full⟩
      cases early with
      | nil =>
        cases ports with
        | cons _ _ => exact served.elim
        | nil =>
          rw [nil_append, List.cons.injEq] at split
          rw [← split.1] at full
          exact absurd ((full port first.above).resolve_right not_mem_nil) first.free
      | cons head early =>
        rw [cons_append, List.cons.injEq] at split
        cases ports with
        | nil => exact served.elim
        | cons other_port ports =>
          obtain ⟨headFirst, served⟩ := served
          rw [← split.1] at headFirst
          have equal : port = other_port := Option.some.inj
            (found.symm.trans (findLoopbackPort_eq_some_iff.2 headFirst))
          subst equal
          refine ⟨early, other, late, ports, split.2, served, same, fun candidate above => ?_⟩
          rcases full candidate above with old | given
          · exact .inl (Finset.mem_insert_of_mem old)
          rcases mem_cons.1 given with rfl | later
          · exact .inl (Finset.mem_insert_self _ _)
          exact .inr later

/-- One lease for each service in id order, with ports and host names of their own, and with the first
free port for each service. -/
structure Isolated (draft : BoundaryDraft) (occupiedPorts : Finset UInt16)
    (leases : List RuntimeLease) : Prop where
  services : leases.map (·.serviceId) = (sortServices draft.services).map (·.id)
  ports : (leases.map (·.loopbackPort)).Nodup
  hostnames : (leases.map (·.hostname)).Nodup
  unoccupied : ∀ lease ∈ leases, lease.loopbackPort ∉ occupiedPorts
  served : Served occupiedPorts (sortServices draft.services) (leases.map (·.loopbackPort))

/-- What is claimed of the leases of a draft. -/
structure LeasesIsolated (draft : BoundaryDraft) (occupiedPorts : Finset UInt16) : Prop where
  isolated : ∀ boundary, compile draft occupiedPorts = .ok boundary →
    Isolated draft occupiedPorts boundary.runtimeLeases
  exhausted : ∀ id, compile draft occupiedPorts = .error (.portSpaceExhausted id) ↔
    Admissible draft ∧ ∃ early service late ports,
      sortServices draft.services = early ++ service :: late ∧
        Served occupiedPorts early ports ∧ id = service.id ∧
        ∀ port, service.defaultPort ≤ port → port ∈ occupiedPorts ∨ port ∈ ports

theorem Served.length_eq {ports : List UInt16}
    (served : Served taken services ports) : services.length = ports.length := by
  induction services generalizing taken ports with
  | nil =>
    cases ports with
    | nil => rfl
    | cons _ _ => exact served.elim
  | cons service services ih =>
    cases ports with
    | nil => exact served.elim
    | cons port ports => rw [length_cons, length_cons, ih served.2]

theorem Served.fresh {ports : List UInt16}
    (served : Served taken services ports) : ports.Nodup ∧ ∀ port ∈ ports, port ∉ taken := by
  induction services generalizing taken ports with
  | nil =>
    cases ports with
    | nil => exact ⟨.nil, fun _ none => (not_mem_nil none).elim⟩
    | cons _ _ => exact served.elim
  | cons service services ih =>
    cases ports with
    | nil => exact served.elim
    | cons port ports =>
      obtain ⟨first, rest⟩ := served
      obtain ⟨distinct, fresh⟩ := ih rest
      refine ⟨nodup_cons.2 ⟨fun again => ?_, distinct⟩, fun other inside => ?_⟩
      · exact fresh port again (Finset.mem_insert_self _ _)
      rcases mem_cons.1 inside with rfl | later
      · exact first.free
      exact fun old => fresh other later (Finset.mem_insert_of_mem old)

theorem zipWith_left {α β γ : Type} (f : α → γ) {firsts : List α} {seconds : List β}
    (lengths : firsts.length = seconds.length) :
    List.zipWith (fun first _ => f first) firsts seconds = firsts.map f := by
  induction firsts generalizing seconds with
  | nil => rw [zipWith_nil_left, map_nil]
  | cons first firsts ih =>
    cases seconds with
    | nil => cases lengths
    | cons second seconds =>
      rw [zipWith_cons_cons, map_cons, ih (Nat.succ.inj lengths)]

theorem zipWith_right {α β : Type} {firsts : List α} {seconds : List β}
    (lengths : firsts.length = seconds.length) :
    List.zipWith (fun _ second => second) firsts seconds = seconds := by
  induction firsts generalizing seconds with
  | nil => rw [zipWith_nil_left, length_eq_zero_iff.1 lengths.symm]
  | cons first firsts ih =>
    cases seconds with
    | nil => cases lengths
    | cons second seconds => rw [zipWith_cons_cons, ih (Nat.succ.inj lengths)]

variable {draft : BoundaryDraft}

theorem compile_of_not_admissible (inadmissible : ¬Admissible draft) (id : String) :
    compile draft occupiedPorts ≠ .error (.portSpaceExhausted id) := by
  intro refused
  have names := firstDuplicateName_eq_none_iff (canonicalRepositories_sorted draft.repositories)
  rw [(canonicalRepositories_names_perm draft.repositories).nodup_iff] at names
  rw [compile] at refused
  split at refused
  · cases refused
  rename_i issue
  split at refused
  · cases refused
  rename_i nonempty
  dsimp only at refused
  split at refused
  · cases refused
  rename_i unique
  split at refused
  · cases refused
  rename_i inside
  refine inadmissible ⟨issue, nonempty, names.1 unique, fun service member => ?_⟩
  have passed := find?_eq_none.1 inside service (mem_sortServices.2 member)
  rw [decide_eq_true_eq, not_not] at passed
  exact (canonicalRepositories_names_perm draft.repositories).mem_iff.1 passed

theorem compile_of_admissible (admissible : Admissible draft) :
    compile draft occupiedPorts =
      match leaseServices (slug (canonicalIssueKey draft.issueKey)) (sortServices draft.services)
        occupiedPorts with
      | .error error => .error error
      | .ok leases => .ok (assemble draft leases) := by
  have unique : firstDuplicateName (canonicalRepositories draft.repositories) = none := by
    rw [firstDuplicateName_eq_none_iff (canonicalRepositories_sorted draft.repositories),
      (canonicalRepositories_names_perm draft.repositories).nodup_iff]
    exact admissible.names
  have inside : (sortServices draft.services).find? (fun service =>
      service.repository ∉ (canonicalRepositories draft.repositories).map (·.name)) = none := by
    rw [find?_eq_none]
    intro service member
    rw [decide_eq_true_eq, not_not, (canonicalRepositories_names_perm draft.repositories).mem_iff]
    exact admissible.services service (mem_sortServices.1 member)
  rw [compile, if_neg admissible.issue, if_neg admissible.scope]
  simp only [unique, inside]
  rfl

theorem compile_exhausted_iff {id : String} :
    compile draft occupiedPorts = .error (.portSpaceExhausted id) ↔ Admissible draft ∧
        leaseServices (slug (canonicalIssueKey draft.issueKey)) (sortServices draft.services)
          occupiedPorts = .error (.portSpaceExhausted id) := by
  by_cases admissible : Admissible draft
  · rw [compile_of_admissible admissible]
    cases leaseServices (slug (canonicalIssueKey draft.issueKey)) (sortServices draft.services)
        occupiedPorts with
    | error error => simp [admissible]
    | ok leases => simp
  simp only [admissible, false_and, iff_false]
  exact compile_of_not_admissible admissible id

section Fields

variable {networkNamespace : String} {services : List ServiceSpec} {ports : List UInt16}
  (lengths : services.length = ports.length)

include lengths

theorem map_serviceId : (List.zipWith (leaseAt networkNamespace) services ports).map (·.serviceId) =
    services.map (·.id) := by
  rw [map_zipWith]
  exact zipWith_left _ lengths

theorem map_loopbackPort :
    (List.zipWith (leaseAt networkNamespace) services ports).map (·.loopbackPort) = ports := by
  rw [map_zipWith]
  exact zipWith_right lengths

theorem nodup_hostname_iff :
    ((List.zipWith (leaseAt networkNamespace) services ports).map (·.hostname)).Nodup ↔
      (services.map fun service => slug service.id).Nodup := by
  have hostnames : (List.zipWith (leaseAt networkNamespace) services ports).map (·.hostname) =
      (services.map fun service => slug service.id).map
        fun name => name ++ "." ++ networkNamespace ++ ".wts" := by
    rw [map_zipWith, map_map]
    exact zipWith_left _ lengths
  have injective : Function.Injective
      fun name : String => name ++ "." ++ networkNamespace ++ ".wts" := by
    intro first second same
    simpa using same
  rw [hostnames, nodup_map_iff injective]

end Fields

/-- The leases of a draft are isolated exactly if it is rejected or the slugs of its service ids are
distinct. -/
theorem leases_isolated_iff (draft : BoundaryDraft) (occupiedPorts : Finset UInt16) :
    LeasesIsolated draft occupiedPorts ↔
      Rejected draft occupiedPorts ∨ (draft.services.map fun service => slug service.id).Nodup := by
  have slugs : ((sortServices draft.services).map fun service => slug service.id).Nodup ↔
      (draft.services.map fun service => slug service.id).Nodup :=
    ((perm_insertionSort _ _).map _).nodup_iff
  constructor
  · intro claimed
    rw [Classical.or_iff_not_imp_left]
    intro accepted
    rw [rejected_iff] at accepted
    obtain ⟨boundary, done⟩ := not_forall_not.1 accepted
    have isolated := (claimed.isolated boundary done).hostnames
    obtain ⟨_, leases, leased, rfl⟩ := compile_eq_ok_iff.1 done
    obtain ⟨ports, served, rfl⟩ := leaseServices_iff_served.1 leased
    exact slugs.1 ((nodup_hostname_iff served.length_eq).1 isolated)
  · intro condition
    refine ⟨fun boundary done => ?_, fun id => ?_⟩
    · have accepted : ¬Rejected draft occupiedPorts := fun rejected =>
        rejected_iff.1 rejected boundary done
      have distinct := slugs.2 (condition.resolve_left accepted)
      obtain ⟨_, leases, leased, rfl⟩ := compile_eq_ok_iff.1 done
      obtain ⟨ports, served, rfl⟩ := leaseServices_iff_served.1 leased
      have lengths := served.length_eq
      have given := @map_loopbackPort (slug (canonicalIssueKey draft.issueKey)) _ _ lengths
      refine ⟨map_serviceId lengths, ?_, (nodup_hostname_iff lengths).2 distinct, ?_, ?_⟩
      · exact given.symm ▸ served.fresh.1
      · intro lease inside
        refine served.fresh.2 _ ?_
        rw [← given]
        exact mem_map_of_mem inside
      · exact given.symm ▸ served
    · rw [compile_exhausted_iff, leaseServices_error_iff]
      simp only [BoundaryError.portSpaceExhausted.injEq]

def slugClashDraft : BoundaryDraft where
  issueKey := "task-42"
  baseGraphDigest := "graph-base-42"
  repositories :=
    [{ name := "orders-api", baseRef := "main", baseCommit := "aaa",
       relevanceBasisPoints := 9000, evidence := [] }]
  services :=
    [{ id := "orders.api", repository := "orders-api", defaultPort := 9000, dependsOn := [] },
      { id := "orders-api", repository := "orders-api", defaultPort := 9100, dependsOn := [] }]

theorem slugClashDraft_shares_hostname : ¬LeasesIsolated slugClashDraft ∅ := by
  intro claimed
  have shared : (compile slugClashDraft ∅).toOption.map
      (fun boundary => decide (boundary.runtimeLeases.map (·.hostname)).Nodup) = some false := by
    decide +kernel
  cases done : compile slugClashDraft ∅ with
  | error error =>
    rw [done] at shared
    cases shared
  | ok boundary =>
    rw [done] at shared
    have distinct := (claimed.isolated boundary done).hostnames
    exact of_decide_eq_false (Option.some.inj shared) distinct

end Wts.Core
