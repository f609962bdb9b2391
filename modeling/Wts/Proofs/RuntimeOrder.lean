/-
Module: Wts.Proofs.RuntimeOrder
Purpose: The order in which a stack is started.
Trusted boundary: none
Main exports: start_order
-/
import Wts.Library.ReadyOrder
import Wts.Library.SortDedup
import Wts.Proofs.RuntimeRegistry

namespace Wts.Runtime

open Text ReadyOrder Acyclic Relation MapRows
open List hiding beq_eq_decide
open Std (ExtTreeMap ExtTreeSet)

/-! ### Collected services -/

def RuntimeServiceRequest.prepared (request : RuntimeServiceRequest) : RuntimeServiceRequest :=
  { request with id := trim request.id, dependsOn := sortDedup request.dependsOn }

@[simp] theorem prepared_id (request : RuntimeServiceRequest) :
    request.prepared.id = trim request.id := rfl

variable {canonicalDirectory : PathBuf → Option PathBuf} {services : ServiceMap}
  {workspaceRoot : PathBuf}

variable {service : RuntimeServiceRequest} {tokens list : List String}

theorem prepareService_eq_ok {request : RuntimeServiceRequest}
    (accepted : prepareService canonicalDirectory workspaceRoot services tokens request =
      .ok service) : service = request.prepared ∧ services[trim request.id]? = none := by
  unfold prepareService at accepted
  simp only at accepted
  split at accepted
  · cases accepted
  split at accepted
  · cases accepted
  rename_i fresh
  split at accepted
  · cases accepted
  split at accepted
  · cases accepted
  split at accepted
  · cases accepted
  split at accepted
  · cases accepted
  split at accepted
  · cases accepted
  split at accepted
  · cases accepted
  cases accepted
  refine ⟨rfl, ?_⟩
  rwa [ExtTreeMap.contains_iff_mem, ExtTreeMap.mem_iff_isSome_getElem?, Option.not_isSome_iff_eq_none]
    at fresh

/-- The map holds the prepared requests under their distinct ids. -/
structure Collected (requests : List RuntimeServiceRequest) (services : ServiceMap) : Prop where
  lookup : ∀ id service, services[id]? = some service ↔
    ∃ request ∈ requests, request.prepared = service ∧ trim request.id = id
  distinct : (requests.map fun request => trim request.id).Nodup

variable {requests : List RuntimeServiceRequest}

/-- The services of a request that is accepted. -/
theorem collectServices_spec {result : ServiceMap}
    (accepted : collectServices canonicalDirectory workspaceRoot requests services tokens =
      .ok result) : (∀ id service, result[id]? = some service ↔ services[id]? = some service ∨
        ∃ request ∈ requests, request.prepared = service ∧ trim request.id = id) ∧
      (requests.map fun request => trim request.id).Nodup ∧
      ∀ request ∈ requests, services[trim request.id]? = none := by
  induction requests generalizing services tokens with
  | nil =>
    cases accepted
    simp
  | cons request rest ih =>
    rw [collectServices] at accepted
    cases prepares : prepareService canonicalDirectory workspaceRoot services tokens request with
    | error error =>
      rw [prepares] at accepted
      cases accepted
    | ok service =>
      rw [prepares] at accepted
      obtain ⟨rfl, fresh⟩ := prepareService_eq_ok prepares
      obtain ⟨lookup, distinct, freshRest⟩ := ih accepted
      have other : ∀ later ∈ rest, trim later.id ≠ trim request.id := by
        intro later member same
        have absent := freshRest later member
        rw [lookup_insert, prepared_id, if_pos same.symm] at absent
        cases absent
      refine ⟨?_, ?_, ?_⟩
      · intro id service
        rw [lookup, lookup_insert, prepared_id]
        simp only [mem_cons, exists_eq_or_imp]
        by_cases same : trim request.id = id
        · rw [if_pos same, Option.some.injEq, ← same, fresh]
          simp
        rw [if_neg same]
        simp [same]
      · rw [map_cons, nodup_cons]
        refine ⟨fun repeated => ?_, distinct⟩
        obtain ⟨later, member, same⟩ := mem_map.1 repeated
        exact other later member same
      intro later member
      rcases mem_cons.1 member with isFirst | isLater
      · rw [isFirst]
        exact fresh
      have absent := freshRest later isLater
      rwa [lookup_insert, prepared_id, if_neg (other later isLater).symm] at absent

theorem collected
    (accepted : collectServices canonicalDirectory workspaceRoot requests ∅ [] = .ok services) :
    Collected requests services := by
  obtain ⟨lookup, distinct, -⟩ := collectServices_spec accepted
  exact ⟨fun id service => by simpa using lookup id service, distinct⟩

/-- A service depends on another one, as the requests declare it. -/
def DependsOn (requests : List RuntimeServiceRequest) (dependency id : String) : Prop :=
  ∃ request ∈ requests, trim request.id = id ∧ dependency ∈ request.dependsOn

namespace Collected

variable {requests : List RuntimeServiceRequest} {services : ServiceMap}

variable {id : String}

variable {service : RuntimeServiceRequest}

section

variable (collected : Collected requests services)
include collected

theorem id_eq (found : services[id]? = some service) : service.id = id := by
  obtain ⟨request, -, rfl, same⟩ := (collected.lookup id service).1 found
  exact same

theorem dependsOn_iff {dependency : String} : DependsOn requests dependency id ↔
      ∃ service, services[id]? = some service ∧ dependency ∈ service.dependsOn := by
  constructor
  · rintro ⟨request, member, same, depends⟩
    refine ⟨request.prepared, (collected.lookup _ _).2 ⟨request, member, rfl, same⟩, ?_⟩
    exact mem_sortDedup.2 depends
  rintro ⟨service, found, depends⟩
  obtain ⟨request, member, rfl, same⟩ := (collected.lookup id service).1 found
  exact ⟨request, member, same, mem_sortDedup.1 depends⟩

theorem nodup_dependsOn (found : services[id]? = some service) : service.dependsOn.Nodup := by
  obtain ⟨request, -, rfl, -⟩ := (collected.lookup id service).1 found
  exact (sortDedup_strict request.dependsOn).nodup

theorem keys_perm :
    (services.toList.map Prod.fst).Perm (requests.map fun request => trim request.id) := by
  rw [perm_ext_iff_of_nodup (nodup_keys services) collected.distinct]
  intro id
  constructor
  · intro member
    obtain ⟨⟨key, service⟩, isRow, rfl⟩ := mem_map.1 member
    obtain ⟨request, inside, -, same⟩ := (collected.lookup key service).1 (mem_toList.1 isRow)
    exact mem_map.2 ⟨request, inside, same⟩
  intro member
  obtain ⟨request, inside, same⟩ := mem_map.1 member
  have found := (collected.lookup id request.prepared).2 ⟨request, inside, rfl, same⟩
  exact mem_map.2 ⟨(id, request.prepared), mem_toList.2 found, rfl⟩

theorem size_eq : services.size = requests.length := by
  have same := collected.keys_perm.length_eq
  rwa [length_map, length_map, ExtTreeMap.length_toList] at same

end

end Collected

variable {id : String}

variable {dependency dependant : String}

theorem known_of_unknownDependency (known : unknownDependency services = none)
    (found : services[id]? = some service)
    (depends : dependency ∈ service.dependsOn) : ∃ other, services[dependency]? = some other := by
  have all := find?_eq_none.1 known (service.id, dependency)
    (mem_flatMap.2 ⟨(id, service), mem_toList.2 found, mem_map.2 ⟨dependency, depends, rfl⟩⟩)
  simp only [decide_not, Bool.not_eq_true', Bool.not_eq_false, decide_eq_true_eq,
    ExtTreeMap.contains_iff_mem, ExtTreeMap.mem_iff_isSome_getElem?] at all
  exact Option.isSome_iff_exists.1 (by simpa using all)

def serviceGraph (services : ServiceMap) (known : unknownDependency services = none) :
    Graph String where
  nodes := (services.toList.map Prod.fst).toFinset
  predecessors id := ((services[id]?).elim [] RuntimeServiceRequest.dependsOn).toFinset
  closed := by
    intro id member dependency depends
    obtain ⟨⟨key, service⟩, isRow, rfl⟩ := mem_map.1 (mem_toFinset.1 member)
    have found := MapRows.mem_toList.1 isRow
    rw [found, Option.elim_some, mem_toFinset] at depends
    obtain ⟨other, otherFound⟩ := known_of_unknownDependency known found depends
    exact mem_toFinset.2 (mem_map.2 ⟨(dependency, other), MapRows.mem_toList.2 otherFound, rfl⟩)

section Order

variable {services : ServiceMap} {known : unknownDependency services = none}

variable {id : String}

theorem mem_nodes :
    id ∈ (serviceGraph services known).nodes ↔ ∃ service, services[id]? = some service := by
  simp only [serviceGraph, mem_toFinset, mem_map, mem_toList]
  constructor
  · rintro ⟨⟨key, service⟩, found, rfl⟩
    exact ⟨service, found⟩
  rintro ⟨service, found⟩
  exact ⟨(id, service), found, rfl⟩

variable {dependency : String}

theorem mem_predecessors {service : RuntimeServiceRequest} (found : services[id]? = some service) :
    dependency ∈ (serviceGraph services known).predecessors id ↔ dependency ∈ service.dependsOn := by
  simp only [serviceGraph, found, Option.elim_some, mem_toFinset]

theorem edge_iff {requests : List RuntimeServiceRequest} (collected : Collected requests services) :
    (serviceGraph services known).Edge dependency id ↔ DependsOn requests dependency id := by
  rw [collected.dependsOn_iff, Graph.Edge, mem_nodes]
  constructor
  · rintro ⟨⟨service, found⟩, depends⟩
    exact ⟨service, found, (mem_predecessors found).1 depends⟩
  rintro ⟨service, found, depends⟩
  exact ⟨⟨service, found⟩, (mem_predecessors found).2 depends⟩

theorem card_nodes : (serviceGraph services known).nodes.card = services.size := by
  rw [serviceGraph, toFinset_card_of_nodup (nodup_keys services), length_map,
    ExtTreeMap.length_toList]

theorem waiting_le (placed : Finset String) (node : id ∈ (serviceGraph services known).nodes) :
    (serviceGraph services known).waiting placed id ≤ services.size := by
  rw [← @card_nodes services known, Graph.waiting]
  exact Finset.card_le_card (Finset.sdiff_subset.trans ((serviceGraph services known).closed id node))

end Order

/-- One more dependency of the service is in the order. -/
def releaseChecked (state : OrderState) (dependant : String) : Option OrderState :=
  match state.incoming[dependant]? with
  | none | some 0 => none
  | some (count + 1) =>
    some
      { state with
        incoming := state.incoming.insert dependant count
        ready := if count = 0 then state.ready.insert dependant else state.ready }

/-- Kahn's loop, which stops when a count would fall below zero. -/
def orderChecked (services : ServiceMap) : ℕ → OrderState → Option OrderState
  | 0, state => some state
  | turns + 1, state =>
    match state.ready.toList.head? with
    | none => some state
    | some id =>
      ((dependants services id).foldlM releaseChecked
        { state with ready := state.ready.erase id, order := state.order ++ [id] }).bind
          (orderChecked services turns)

def initialOrder (services : ServiceMap) : OrderState :=
  let incoming := services.map fun _ service => service.dependsOn.length
  { incoming := incoming
    ready := ExtTreeSet.ofList ((incoming.toList.filter fun entry => entry.2 = 0).map Prod.fst)
    order := [] }

variable {count : ℕ}

theorem decrement_succ (small : count < 2 ^ 64) : decrement (count + 1) = count := by
  unfold decrement
  omega

variable {state : OrderState}

theorem releaseDependant_of_succ
    (found : state.incoming[dependant]? = some (count + 1)) (small : count < 2 ^ 64) :
    releaseDependant state dependant = { state with
        incoming := state.incoming.insert dependant count
        ready := if count = 0 then state.ready.insert dependant else state.ready } := by
  simp only [releaseDependant, found, Option.getD_some, decrement_succ small]

theorem releaseChecked_of_succ
    (found : state.incoming[dependant]? = some (count + 1)) (small : count < 2 ^ 64) :
    releaseChecked state dependant = some (releaseDependant state dependant) := by
  rw [releaseDependant_of_succ found small]
  simp only [releaseChecked, found]

/-- Each of the listed dependants has a counter above zero. -/
def Counted (counts : String → ℕ) (state : OrderState) (list : List String) : Prop :=
  ∀ dependant ∈ list, state.incoming[dependant]? = some (counts dependant + 1) ∧
    counts dependant < 2 ^ 64

theorem foldl_releaseDependant {counts : String → ℕ} (distinct : list.Nodup)
    (counted : Counted counts state list) :
    list.foldlM releaseChecked state = some (list.foldl releaseDependant state) ∧
      (list.foldl releaseDependant state).order = state.order ∧
      (∀ id, (list.foldl releaseDependant state).incoming[id]? =
        if id ∈ list then some (counts id) else state.incoming[id]?) ∧
      ∀ id, id ∈ (list.foldl releaseDependant state).ready ↔
        id ∈ state.ready ∨ (id ∈ list ∧ counts id = 0) := by
  induction list generalizing state with
  | nil => simp
  | cons dependant rest ih =>
    obtain ⟨found, small⟩ := counted dependant mem_cons_self
    obtain ⟨fresh, distinctRest⟩ := nodup_cons.1 distinct
    have step := releaseDependant_of_succ found small
    have countedRest : Counted counts (releaseDependant state dependant) rest := by
      intro other member
      have notSame : dependant ≠ other := fun same => fresh (same ▸ member)
      rw [step, lookup_insert, if_neg notSame]
      exact counted other (mem_cons_of_mem _ member)
    obtain ⟨checked, order, incoming, ready⟩ := ih distinctRest countedRest
    refine ⟨?_, ?_, ?_, ?_⟩
    · rw [foldlM_cons, releaseChecked_of_succ found small]
      exact checked
    · rw [foldl_cons, order, step]
    · intro id
      rw [foldl_cons, incoming, step]
      simp only [lookup_insert, mem_cons]
      by_cases inRest : id ∈ rest
      · simp [inRest]
      by_cases same : dependant = id
      · simp [same]
      simp [inRest, same, Ne.symm same]
    intro id
    rw [foldl_cons, ready, step, mem_cons]
    by_cases zero : counts dependant = 0
    · simp only [zero, if_true, ExtTreeSet.mem_insert, Std.LawfulEqCmp.compare_eq_iff_eq]
      constructor
      · rintro ((rfl | before) | ⟨inRest, none⟩)
        · exact .inr ⟨.inl rfl, zero⟩
        · exact .inl before
        · exact .inr ⟨.inr inRest, none⟩
      rintro (before | ⟨rfl | inRest, none⟩)
      · exact .inl (.inr before)
      · exact .inl (.inl rfl)
      exact .inr ⟨inRest, none⟩
    simp only [zero, if_false]
    constructor
    · rintro (before | ⟨inRest, none⟩)
      · exact .inl before
      · exact .inr ⟨.inr inRest, none⟩
    rintro (before | ⟨rfl | inRest, none⟩)
    · exact .inl before
    · exact absurd none zero
    exact .inr ⟨inRest, none⟩

/-! ### The loop -/

theorem filter_eq_singleton (distinct : list.Nodup) :
    (list.filter fun other => other = id) = if id ∈ list then [id] else [] := by
  have counted := filter_beq (l := list) id
  simp only [beq_eq_decide] at counted
  rw [counted]
  split
  · rename_i member
    rw [count_eq_one_of_mem distinct member, replicate_one]
  rename_i absent
  rw [count_eq_zero_of_not_mem absent, replicate_zero]

section Loop

variable {requests : List RuntimeServiceRequest} {services : ServiceMap}
  {known : unknownDependency services = none} {state : OrderState}

theorem dependants_eq (collected : Collected requests services) (id : String) :
    dependants services id =
      (services.toList.filter fun entry => id ∈ entry.2.dependsOn).map Prod.fst := by
  have each : ∀ entry ∈ services.toList,
      ((entry.2.dependsOn.filter fun dependency => dependency = id).map fun _ => entry.2.id) =
        if id ∈ entry.2.dependsOn then [entry.1] else [] := by
    intro entry member
    have found := mem_toList.1 member
    rw [filter_eq_singleton (collected.nodup_dependsOn found)]
    split
    · rw [map_singleton, collected.id_eq found]
    rfl
  rw [dependants, flatMap_congr each]
  generalize services.toList = entries
  induction entries with
  | nil => rfl
  | cons entry rest ih =>
    rw [flatMap_cons, ih, filter_cons]
    by_cases uses : id ∈ entry.2.dependsOn <;> simp [uses]

theorem nodup_dependants (collected : Collected requests services) (id : String) :
    (dependants services id).Nodup := by
  rw [dependants_eq collected]
  exact (nodup_keys services).sublist (filter_sublist.map _)

variable {id : String}

theorem mem_dependants (collected : Collected requests services) {other : String} :
    other ∈ dependants services id ↔
      ∃ service, services[other]? = some service ∧ id ∈ service.dependsOn := by
  rw [dependants_eq collected, mem_map]
  constructor
  · rintro ⟨⟨key, service⟩, member, rfl⟩
    obtain ⟨isRow, uses⟩ := mem_filter.1 member
    exact ⟨service, mem_toList.1 isRow, of_decide_eq_true uses⟩
  rintro ⟨service, found, uses⟩
  exact ⟨(other, service), mem_filter.2 ⟨mem_toList.2 found, decide_eq_true uses⟩, rfl⟩

/-- The loop has placed services least first, a counter is the number of dependencies that are not
placed, and the ready services are the ones without such dependencies. -/
structure Tracks (services : ServiceMap) (known : unknownDependency services = none)
    (state : OrderState) : Prop where
  taken : LeastFirst (serviceGraph services known) state.order
  counters : ∀ id ∈ (serviceGraph services known).nodes, state.incoming[id]? =
    some ((serviceGraph services known).waiting state.order.toFinset id)
  ready : ∀ id, id ∈ state.ready ↔ (serviceGraph services known).Ready state.order.toFinset id

theorem tracks_initial (collected : Collected requests services) :
    Tracks services known (initialOrder services) where
  taken := .nil
  counters := by
    intro id node
    obtain ⟨service, found⟩ := mem_nodes.1 node
    simp only [initialOrder, toFinset_nil, Graph.waiting_empty]
    rw [ExtTreeMap.getElem?_map, found, Option.map_some]
    simp only [serviceGraph, found, Option.elim_some]
    rw [toFinset_card_of_nodup (collected.nodup_dependsOn found)]
  ready := by
    intro id
    simp only [initialOrder, toFinset_nil, ExtTreeSet.mem_ofList, contains_iff_mem,
      mem_map, mem_filter, decide_eq_true_eq, mem_toList,
      ExtTreeMap.getElem?_map]
    constructor
    · rintro ⟨⟨key, count⟩, ⟨found, zero⟩, rfl⟩
      obtain ⟨service, isService, rfl⟩ := Option.map_eq_some_iff.1 found
      refine ⟨mem_nodes.2 ⟨service, isService⟩, Finset.notMem_empty _, ?_⟩
      intro dependency depends
      rw [mem_predecessors isService, eq_nil_of_length_eq_zero zero] at depends
      cases depends
    intro isReady
    obtain ⟨service, found⟩ := mem_nodes.1 isReady.node
    refine ⟨(id, 0), ⟨?_, rfl⟩, rfl⟩
    have none : service.dependsOn = [] := by
      refine eq_nil_iff_forall_not_mem.2 fun dependency depends => ?_
      exact Finset.notMem_empty _ (isReady.satisfied ((mem_predecessors found).2 depends))
    simp [found, none]

theorem toFinset_append_singleton (order : List String) (id : String) :
    (order ++ [id]).toFinset = insert id order.toFinset := by
  ext other
  simp

theorem Tracks.isLeast (tracks : Tracks services known state)
    (first : state.ready.toList.head? = some id) :
    IsLeast {other | (serviceGraph services known).Ready state.order.toFinset other} id := by
  have inList : ∀ {other}, other ∈ state.ready.toList ↔ other ∈ state.ready := ExtTreeSet.mem_toList
  constructor
  · exact (tracks.ready id).1 (inList.1 (mem_of_head? first))
  intro other isReady
  have member := inList.2 ((tracks.ready other).2 isReady)
  have ordered := state.ready.ordered_toList
  cases same : state.ready.toList with
  | nil =>
    rw [same] at member
    cases member
  | cons least rest =>
    rw [same, head?_cons, Option.some.injEq] at first
    subst first
    rw [same] at member ordered
    rcases mem_cons.1 member with isFirst | later
    · exact le_of_eq isFirst.symm
    exact (compare_lt_iff_lt.1 ((pairwise_cons.1 ordered).1 other later)).le

theorem Tracks.place (collected : Collected requests services) (small : services.size < 2 ^ 64)
    (tracks : Tracks services known state) (first : state.ready.toList.head? = some id) :
    let start : OrderState :=
      { state with ready := state.ready.erase id, order := state.order ++ [id] }
    (dependants services id).foldlM releaseChecked start =
        some ((dependants services id).foldl releaseDependant start) ∧
      Tracks services known ((dependants services id).foldl releaseDependant start) ∧
      ((dependants services id).foldl releaseDependant start).order = state.order ++ [id] := by
  intro start
  have least := tracks.isLeast first
  have placed := toFinset_append_singleton state.order id
  -- a dependant waits for the placed service and for what it waits for afterwards
  have waits : ∀ {other service}, services[other]? = some service → id ∈ service.dependsOn →
      (serviceGraph services known).waiting (insert id state.order.toFinset) other + 1 =
        (serviceGraph services known).waiting state.order.toFinset other := by
    intro other service found uses
    exact Graph.waiting_insert_add_one least.1.fresh ((mem_predecessors found).2 uses)
  have counted : Counted
      (fun other => (serviceGraph services known).waiting (insert id state.order.toFinset) other)
      start (dependants services id) := by
    intro other member
    obtain ⟨service, found, uses⟩ := (mem_dependants collected).1 member
    have node : other ∈ (serviceGraph services known).nodes := mem_nodes.2 ⟨service, found⟩
    refine ⟨?_, (waiting_le _ node).trans_lt small⟩
    rw [waits found uses]
    exact tracks.counters other node
  obtain ⟨checked, order, incoming, ready⟩ :=
    foldl_releaseDependant (nodup_dependants collected id) counted
  refine ⟨checked, ⟨?_, ?_, ?_⟩, order⟩
  · rw [order]
    exact tracks.taken.snoc least
  · intro other node
    obtain ⟨service, found⟩ := mem_nodes.1 node
    rw [incoming, order, placed]
    by_cases uses : id ∈ service.dependsOn
    · rw [if_pos ((mem_dependants collected).2 ⟨service, found, uses⟩)]
    have notListed : other ∉ dependants services id := by
      intro member
      obtain ⟨same, sameFound, sameUses⟩ := (mem_dependants collected).1 member
      rw [found, Option.some.injEq] at sameFound
      exact uses (sameFound ▸ sameUses)
    rw [if_neg notListed, Graph.waiting_insert_of_notMem]
    · exact tracks.counters other node
    exact fun member => uses ((mem_predecessors found).1 member)
  intro other
  rw [ready, order, placed, Graph.ready_insert_iff least.1 tracks.taken.complete]
  refine or_congr ?_ ?_
  · rw [ExtTreeSet.mem_erase, tracks.ready, Ne, Std.LawfulEqCmp.compare_eq_iff_eq]
    exact ⟨fun ⟨apart, isReady⟩ => ⟨isReady, fun same => apart same.symm⟩,
      fun ⟨isReady, apart⟩ => ⟨fun same => apart same.symm, isReady⟩⟩
  rw [mem_dependants collected]
  constructor
  · rintro ⟨⟨service, found, uses⟩, zero⟩
    exact ⟨mem_nodes.2 ⟨service, found⟩, (mem_predecessors found).2 uses, zero⟩
  rintro ⟨node, uses, zero⟩
  obtain ⟨service, found⟩ := mem_nodes.1 node
  exact ⟨⟨service, found, (mem_predecessors found).1 uses⟩, zero⟩

theorem Tracks.run (collected : Collected requests services) (small : services.size < 2 ^ 64)
    (tracks : Tracks services known state) {turns : ℕ}
    (enough : services.size ≤ turns + state.order.length) :
    orderChecked services turns state = some (orderServices services turns state) ∧
      Tracks services known (orderServices services turns state) ∧
      ∀ id, id ∉ (orderServices services turns state).ready := by
  induction turns generalizing state with
  | zero =>
    refine ⟨rfl, tracks, ?_⟩
    intro id member
    have isReady := (tracks.ready id).1 member
    apply isReady.fresh
    have all : state.order.toFinset = (serviceGraph services known).nodes := by
      refine Finset.eq_of_subset_of_card_le tracks.taken.subset ?_
      rw [card_nodes, toFinset_card_of_nodup tracks.taken.nodup]
      omega
    rw [all]
    exact isReady.node
  | succ turns ih =>
    rw [orderChecked, orderServices]
    cases first : state.ready.toList.head? with
    | none =>
      refine ⟨rfl, tracks, ?_⟩
      intro id member
      rw [head?_eq_none_iff] at first
      have inList := ExtTreeSet.mem_toList.2 member
      rw [first] at inList
      cases inList
    | some id =>
      obtain ⟨checked, later, order⟩ := tracks.place collected small first
      dsimp only
      rw [checked, Option.bind_some]
      apply ih later
      rw [order, length_append, length_singleton]
      omega

end Loop

def RequestVec := { requests : List RuntimeServiceRequest // requests.length < 2 ^ 64 }

/-- The order that a stack without cycles has to be started in. -/
structure StartOrder (requests : List RuntimeServiceRequest) (order : List String) : Prop where
  perm : order.Perm (requests.map fun request => trim request.id)
  afterDependencies : ∀ first id rest, order = first ++ id :: rest →
    ∀ dependency, DependsOn requests dependency id → dependency ∈ first
  leastReady : ∀ (k : ℕ) (inside : k < order.length),
    IsLeast {id | id ∈ requests.map (fun request => trim request.id) ∧ id ∉ order.take k ∧
      ∀ dependency, DependsOn requests dependency id → dependency ∈ order.take k} order[k]

section Dependencies

variable {requests : List RuntimeServiceRequest} {services : ServiceMap}

theorem dependencyOrder_eq (services : ServiceMap) :
    dependencyOrder services =
      if (orderServices services services.size (initialOrder services)).order.length = services.size
      then .ok (orderServices services services.size (initialOrder services)).order
      else .error .dependencyCycle := rfl

theorem startOrder_of_taken (collected : Collected requests services)
    {known : unknownDependency services = none} {order : List String}
    (taken : LeastFirst (serviceGraph services known) order) (full : order.length = services.size) :
    StartOrder requests order := by
  have edge : ∀ {dependency id}, DependsOn requests dependency id ↔
      (serviceGraph services known).Edge dependency id := (edge_iff collected).symm
  have node : ∀ {id}, id ∈ requests.map (fun request => trim request.id) ↔
      id ∈ (serviceGraph services known).nodes := by
    intro id
    rw [← collected.keys_perm.mem_iff, serviceGraph, mem_toFinset]
  constructor
  case perm =>
    have all : order.toFinset = (serviceGraph services known).nodes := by
      refine Finset.eq_of_subset_of_card_le taken.subset ?_
      rw [card_nodes, toFinset_card_of_nodup taken.nodup, full]
    rw [perm_ext_iff_of_nodup taken.nodup collected.distinct]
    intro id
    rw [node, ← all, mem_toFinset]
  case afterDependencies =>
    intro first id rest same dependency depends
    exact taken.mem_of_append same (edge.1 depends).2
  case leastReady =>
    intro k inside
    have ready : {id | id ∈ requests.map (fun request => trim request.id) ∧ id ∉ order.take k ∧
        ∀ dependency, DependsOn requests dependency id → dependency ∈ order.take k} =
        {id | (serviceGraph services known).Ready (order.take k).toFinset id} := by
      ext id
      constructor
      · rintro ⟨isNode, fresh, satisfied⟩
        refine ⟨node.1 isNode, fun member => fresh (mem_toFinset.1 member), ?_⟩
        intro dependency uses
        exact mem_toFinset.2 (satisfied dependency (edge.2 ⟨node.1 isNode, uses⟩))
      intro isReady
      refine ⟨node.2 isReady.node, fun member => isReady.fresh (mem_toFinset.2 member), ?_⟩
      intro dependency depends
      exact mem_toFinset.1 (isReady.satisfied (edge.1 depends).2)
    rw [ready]
    exact taken.isLeast_getElem inside

/-- The order is a start order; there is none exactly when services depend on each other in a cycle. -/
theorem dependencyOrder_spec (collected : Collected requests services)
    (known : unknownDependency services = none) (small : requests.length < 2 ^ 64) :
    (dependencyOrder services = .error .dependencyCycle ↔ Cyclic (DependsOn requests)) ∧
      (∀ order, dependencyOrder services = .ok order → StartOrder requests order) ∧
      orderChecked services services.size (initialOrder services) =
        some (orderServices services services.size (initialOrder services)) ∧
      (orderServices services services.size (initialOrder services)).ready.toList.head? = none := by
  have fits : services.size < 2 ^ 64 := collected.size_eq ▸ small
  obtain ⟨checked, tracks, ended⟩ :=
    (tracks_initial collected : Tracks services known (initialOrder services)).run collected fits (Nat.le_add_right _ _)
  have stuck : ∀ id, ¬(serviceGraph services known).Ready
      (orderServices services services.size (initialOrder services)).order.toFinset id :=
    fun id isReady => ended id ((tracks.ready id).2 isReady)
  have complete := tracks.taken.complete_iff stuck
  have cycle : Cyclic (serviceGraph services known).Edge ↔ Cyclic (DependsOn requests) := by
    have same : (serviceGraph services known).Edge = DependsOn requests := by
      ext dependency id
      exact edge_iff collected
    rw [same]
  rw [card_nodes, cycle] at complete
  rw [dependencyOrder_eq]
  refine ⟨?_, ?_, checked, ?_⟩
  · split
    · rename_i full
      exact ⟨nofun, fun cyclic => absurd cyclic (complete.1 full)⟩
    · rename_i notFull
      exact ⟨fun _ => not_not.1 (mt complete.2 notFull), fun _ => rfl⟩
  · intro order done
    split at done
    · rename_i full
      cases done
      exact startOrder_of_taken collected tracks.taken full
    cases done
  rw [head?_eq_none_iff, eq_nil_iff_forall_not_mem]
  exact fun id member => ended id (ExtTreeSet.mem_toList.1 member)

end Dependencies

theorem takeServices_spec {order : List String} (distinct : order.Nodup) {services : ServiceMap}
    (found : ∀ id ∈ order, ∃ service, services[id]? = some service ∧ service.id = id) :
    (takeServices order services).map (·.id) = order ∧
      ∀ service ∈ takeServices order services, services[service.id]? = some service := by
  induction order generalizing services with
  | nil => simp [takeServices]
  | cons id rest ih =>
    obtain ⟨fresh, distinctRest⟩ := nodup_cons.1 distinct
    obtain ⟨service, here, same⟩ := found id mem_cons_self
    have later : ∀ {other}, other ∈ rest → (services.erase id)[other]? = services[other]? := by
      intro other member
      rw [lookup_erase, if_neg]
      exact fun equal => fresh (equal ▸ member)
    obtain ⟨ids, members⟩ := @ih distinctRest (services.erase id) (by
      intro other member
      rw [later member]
      exact found other (mem_cons_of_mem _ member))
    rw [takeServices, here]
    refine ⟨?_, ?_⟩
    · rw [map_cons, ids, same]
    intro other member
    rcases mem_cons.1 member with isFirst | isLater
    · rw [isFirst, same]
      exact here
    have inRest : other.id ∈ rest := ids ▸ mem_map_of_mem isLater
    rw [← later inRest]
    exact members other isLater

variable {limits : RuntimeLimits} {prepared : PreparedStack} {request : RuntimeStackRequest}

theorem prepareStack_eq_ok (done : prepareStack canonicalDirectory request limits = .ok prepared) :
    prepared.key = { workspaceId := request.workspaceId, stackId := request.stackId } ∧
      ∃ workspaceRoot services order,
      collectServices canonicalDirectory workspaceRoot request.services ∅ [] = .ok services ∧
      unknownDependency services = none ∧ dependencyOrder services = .ok order ∧
      prepared.services = takeServices order services := by
  unfold prepareStack at done
  split at done
  · cases done
  split at done
  · cases done
  split at done
  · cases done
  split at done
  · cases done
  rename_i workspaceRoot _
  split at done
  · cases done
  split at done
  · cases done
  rename_i services collects
  split at done
  · cases done
  rename_i known
  split at done
  · cases done
  rename_i order ordered
  cases done
  exact ⟨rfl, workspaceRoot, services, order, collects, known, ordered, rfl⟩

/-- A service is prepared after what it depends on. -/
theorem prepared_afterDependencies {canonicalDirectory : PathBuf → Option PathBuf}
    (small : request.services.length < 2 ^ 64)
    (done : prepareStack canonicalDirectory request limits = .ok prepared)
    {first rest : List RuntimeServiceRequest} (split : prepared.services = first ++ service :: rest)
    (depends : DependsOn request.services dependency service.id) :
    dependency ∈ first.map (·.id) := by
  obtain ⟨-, workspaceRoot, services, order, collects, known, ordered, same⟩ := prepareStack_eq_ok done
  have inMap := collected collects
  have sorted := (dependencyOrder_spec inMap known small).2.1 order ordered
  obtain ⟨ids, -⟩ := @takeServices_spec order (sorted.perm.nodup_iff.2 inMap.distinct) services (by
      intro id member
      obtain ⟨request, inside, isId⟩ := mem_map.1 (sorted.perm.subset member)
      exact ⟨request.prepared, (inMap.lookup _ _).2 ⟨request, inside, rfl, isId⟩, isId⟩)
  rw [← same, split, map_append, map_cons] at ids
  exact sorted.afterDependencies _ _ _ ids.symm dependency depends

/-- What the start loop does to a service. -/
inductive StartEvent where
  | spawned (service : String) (child : Child)
  | ready (service : String)
deriving DecidableEq

def StartEvent.spawnedChild : StartEvent → Option Child
  | .spawned _ child => some child
  | .ready _ => none

/-- The service that is ready. -/
def StartEvent.readyService : StartEvent → Option String
  | .spawned _ _ => none
  | .ready service => some service

/-- The events of the start loop in their order, also of a loop that waits for a service for ever. -/
def startEvents (limits : RuntimeLimits) (run : StartRun) : List ReservedService → ℕ → List StartEvent
  | [], _ => []
  | reserved :: rest, started =>
    match startService limits (run.services started) reserved with
    | some (.interrupted _) | some (.spawnFailed _) => []
    | some (.notReady service _) => [.spawned reserved.request.id service.child]
    | some (.ready service) =>
      .spawned reserved.request.id service.child :: .ready reserved.request.id ::
        startEvents limits run rest (started + 1)
    | none => (run.services started).spawn.toList.map (.spawned reserved.request.id)

variable {before after : List StartEvent} {child : Child} {reserved : List ReservedService}
  {run : StartRun}

theorem startEvents_split {started : ℕ}
    (same : startEvents limits run reserved started = before ++ .spawned id child :: after) :
    ∃ first item rest, reserved = first ++ item :: rest ∧ item.request.id = id ∧
      ∀ earlier ∈ first, .ready earlier.request.id ∈ before := by
  induction reserved generalizing started before with
  | nil =>
    rw [startEvents] at same
    exact absurd same.symm (by simp)
  | cons reserved rest ih =>
    have isHere : id = reserved.request.id →
        ∃ first item rest', reserved :: rest = first ++ item :: rest' ∧ item.request.id = id ∧
          ∀ earlier ∈ first, StartEvent.ready earlier.request.id ∈ before :=
      fun spawned => ⟨[], reserved, rest, rfl, spawned.symm, nofun⟩
    rw [startEvents] at same
    split at same
    · exact absurd same.symm (by simp)
    · exact absurd same.symm (by simp)
    · rcases cons_eq_append_iff.1 same with ⟨-, first⟩ | ⟨_, -, later⟩
      · cases first
        exact isHere rfl
      · exact absurd later.symm (by simp)
    · rcases cons_eq_append_iff.1 same with ⟨-, first⟩ | ⟨ready, rfl, later⟩
      · cases first
        exact isHere rfl
      · rcases cons_eq_append_iff.1 later with ⟨-, wrong⟩ | ⟨others, rfl, spawns⟩
        · cases wrong
        · obtain ⟨first, item, rest', split, isId, earlierReady⟩ := ih spawns
          refine ⟨reserved :: first, item, rest', by rw [split, cons_append], isId, ?_⟩
          intro earlier member
          rcases mem_cons.1 member with isFirst | isLater
          · subst isFirst
            simp
          have inOthers := earlierReady earlier isLater
          simp [inOthers]
    cases spawned : (run.services started).spawn with
    | none =>
      rw [spawned] at same
      exact absurd same.symm (by simp)
    | some process =>
      rw [spawned, Option.toList_some, map_singleton] at same
      rcases cons_eq_append_iff.1 same with ⟨-, first⟩ | ⟨_, -, later⟩
      · cases first
        exact isHere rfl
      exact absurd later.symm (by simp)

theorem ready_before_spawned {supervisor : RuntimeSupervisor}
    (small : request.services.length < 2 ^ 64)
    (admitted : admitStack supervisor request run = .ok (prepared, reserved))
    (same : startEvents supervisor.limits run reserved 0 = before ++ .spawned id child :: after)
    (depends : DependsOn request.services dependency id) : .ready dependency ∈ before := by
  obtain ⟨first, item, rest, split, rfl, earlierReady⟩ := startEvents_split same
  obtain ⟨prepares, -, -, -, reserves⟩ := admitStack_spec admitted
  have services := (reserveServices_spec reserves).1
  rw [split, map_append, map_cons] at services
  have placed := prepared_afterDependencies small prepares services.symm depends
  obtain ⟨earlier, member, isDependency⟩ := mem_map.1 placed
  obtain ⟨reservedEarlier, inFirst, rfl⟩ := mem_map.1 member
  rw [← isDependency]
  exact earlierReady reservedEarlier inFirst

/-- The events are those of the start loop: the processes that it has spawned, and the services that
were ready when it ended. -/
theorem startServices_events {services : List ManagedService} {ended : LoopEnd}
    (done : startServices limits run reserved services = some ended) :
    ended.spawned = services.map (·.child) ++
        (startEvents limits run reserved services.length).filterMap StartEvent.spawnedChild ∧
      ((∃ final, ended.result = .ok final) ↔
        (startEvents limits run reserved services.length).filterMap StartEvent.readyService =
          reserved.map (·.request.id)) := by
  induction reserved generalizing services with
  | nil =>
    cases done
    exact ⟨by simp [startEvents], fun _ => rfl, fun _ => ⟨services, rfl⟩⟩
  | cons item rest ih =>
    rw [startServices] at done
    rw [startEvents]
    split at done
    · cases done
    · rename_i error turn
      cases done
      rw [turn]
      refine ⟨by simp, ?_, ?_⟩
      · rintro ⟨_, wrong⟩
        cases wrong
      · intro wrong
        simp at wrong
    · rename_i error turn
      cases done
      rw [turn]
      refine ⟨by simp [exitStopping], ?_, ?_⟩
      · rintro ⟨_, wrong⟩
        cases wrong
      · intro wrong
        simp at wrong
    · rename_i service error turn
      cases done
      rw [turn]
      refine ⟨by simp [exitStopping, StartEvent.spawnedChild], ?_, ?_⟩
      · rintro ⟨_, wrong⟩
        cases wrong
      · intro wrong
        simp [filterMap_cons, StartEvent.readyService] at wrong
    rename_i service turn
    obtain ⟨spawned, isReady⟩ := ih done
    rw [length_append, length_singleton] at spawned isReady
    rw [turn]
    refine ⟨?_, isReady.trans ?_⟩
    · rw [spawned]
      simp [filterMap_cons, StartEvent.spawnedChild]
    · simp [filterMap_cons, StartEvent.readyService]

/-- What a start does with an admitted request: its events put every dependency before the process
that depends on it, and they are those of the call. -/
structure StartsInOrder (supervisor : RuntimeSupervisor) (request : RuntimeStackRequest) (run : StartRun)
    (reserved : List ReservedService) : Prop where
  afterReady : ∀ before id child after,
    startEvents supervisor.limits run reserved 0 = before ++ .spawned id child :: after →
      ∀ dependency, DependsOn request.services dependency id → .ready dependency ∈ before
  spawned : ∀ outcome, startStackCancellable supervisor request run = some outcome →
    outcome.spawned = (startEvents supervisor.limits run reserved 0).filterMap StartEvent.spawnedChild
  started : ∀ outcome, startStackCancellable supervisor request run = some outcome →
    ((∃ snapshot, outcome.result = .ok snapshot) ↔
      (startEvents supervisor.limits run reserved 0).filterMap StartEvent.readyService =
        reserved.map (·.request.id))

theorem startsInOrder {supervisor : RuntimeSupervisor} (small : request.services.length < 2 ^ 64)
    (admitted : admitStack supervisor request run = .ok (prepared, reserved)) :
    StartsInOrder supervisor request run reserved := by
  have loop : ∀ outcome, startStackCancellable supervisor request run = some outcome →
      ∃ ended, startServices supervisor.limits run reserved [] = some ended ∧
        outcome.spawned = ended.spawned ∧
        ((∃ snapshot, outcome.result = .ok snapshot) ↔ ∃ final, ended.result = .ok final) := by
    intro outcome returned
    unfold startStackCancellable at returned
    rw [admitted] at returned
    dsimp only at returned
    split at returned
    · cases returned
    · rename_i ended
      cases returned
      exact ⟨_, ended, rfl, by simp⟩
    rename_i ended
    cases returned
    exact ⟨_, ended, rfl, by simp⟩
  refine ⟨fun before id child after same dependency => ready_before_spawned small admitted same, ?_, ?_⟩
  · intro outcome returned
    obtain ⟨ended, done, spawned, -⟩ := loop outcome returned
    rw [spawned]
    exact (startServices_events done).1
  intro outcome returned
  obtain ⟨ended, done, -, result⟩ := loop outcome returned
  exact result.trans (startServices_events done).2

/-- The order of `prepare_stack` and of the start loop. -/
theorem start_order (canonicalDirectory : PathBuf → Option PathBuf) (workspaceRoot : PathBuf)
    (requests : RequestVec) {services : ServiceMap}
    (accepted : collectServices canonicalDirectory workspaceRoot requests.1 ∅ [] = .ok services)
    (known : unknownDependency services = none) :
    (dependencyOrder services = .error .dependencyCycle ↔ Cyclic (DependsOn requests.1)) ∧
      (¬Cyclic (DependsOn requests.1) →
        ∃ order, dependencyOrder services = .ok order ∧ StartOrder requests.1 order) ∧
      orderChecked services services.size (initialOrder services) =
        some (orderServices services services.size (initialOrder services)) ∧
      (orderServices services services.size (initialOrder services)).ready.toList.head? = none ∧
      ∀ (supervisor : RuntimeSupervisor) (request : RuntimeStackRequest) (run : StartRun)
        (prepared : PreparedStack) (reserved : List ReservedService),
        request.services = requests.1 →
          admitStack supervisor request run = .ok (prepared, reserved) →
            StartsInOrder supervisor request run reserved := by
  obtain ⟨cycle, sorted, checked, ended⟩ :=
    dependencyOrder_spec (collected accepted) known requests.2
  refine ⟨cycle, ?_, checked, ended, ?_⟩
  · intro acyclic
    cases done : dependencyOrder services with
    | ok order => exact ⟨order, rfl, sorted order done⟩
    | error error =>
      have only : error = .dependencyCycle := by
        rw [dependencyOrder_eq] at done
        split at done
        · cases done
        · cases done
          rfl
      rw [only] at done
      exact absurd (cycle.1 done) acyclic
  · intro supervisor request run prepared reserved same admitted
    exact startsInOrder (same ▸ requests.2) admitted

def linkedRequests : RequestVec :=
  ⟨[{ plainService "web" 42000 with dependsOn := ["api"] }, plainService "api" 41000], by decide⟩

def linkedRoot : PathBuf := { absolute := true, components := ["workspace"] }

theorem linkedRequests_accepted :
    (collectServices some linkedRoot linkedRequests.1 ∅ []).toOption.isSome = true := by
  decide +kernel

def linkedServices : ServiceMap :=
  (collectServices some linkedRoot linkedRequests.1 ∅ []).toOption.get linkedRequests_accepted

theorem eq_ok_get {ε α : Type} {result : Except ε α} (accepted : result.toOption.isSome = true) :
    result = .ok (result.toOption.get accepted) := by
  cases result with
  | ok value => rfl
  | error error => cases accepted

theorem collects_linkedServices :
    collectServices some linkedRoot linkedRequests.1 ∅ [] = .ok linkedServices :=
  eq_ok_get linkedRequests_accepted

def linkedSupervisor : RuntimeSupervisor :=
  { limits := plainLimits, registry := ∅ }

theorem linkedStart_admitted : (admitStack linkedSupervisor (plainRequest linkedRequests.1)
    (cancelledFrom 2)).toOption.isSome = true := by
  decide +kernel

/-- The stack of a start in which both services become ready. -/
def linkedStack : PreparedStack × List ReservedService :=
  (admitStack linkedSupervisor (plainRequest linkedRequests.1)
    (cancelledFrom 2)).toOption.get linkedStart_admitted

/-- A start with "web" listed before the service that it depends on. -/
theorem start_order_linked : (dependencyOrder linkedServices = .error .dependencyCycle ↔
        Cyclic (DependsOn linkedRequests.1)) ∧ (¬Cyclic (DependsOn linkedRequests.1) →
        ∃ order, dependencyOrder linkedServices = .ok order ∧ StartOrder linkedRequests.1 order) ∧
      orderChecked linkedServices linkedServices.size (initialOrder linkedServices) =
        some (orderServices linkedServices linkedServices.size (initialOrder linkedServices)) ∧
      (orderServices linkedServices linkedServices.size
        (initialOrder linkedServices)).ready.toList.head? = none ∧
      StartsInOrder linkedSupervisor (plainRequest linkedRequests.1) (cancelledFrom 2) linkedStack.2 ∧
      startEvents plainLimits (cancelledFrom 2) linkedStack.2 0 =
        [.spawned "api" { id := 100 }, .ready "api", .spawned "web" { id := 101 }, .ready "web"] := by
  obtain ⟨cycle, sorted, checked, ended, starts⟩ :=
    start_order some linkedRoot linkedRequests collects_linkedServices (by decide +kernel)
  exact ⟨cycle, sorted, checked, ended,
    starts _ _ _ linkedStack.1 _ rfl (eq_ok_get linkedStart_admitted), by decide +kernel⟩

example : (dependencyOrder linkedServices).toOption = some ["api", "web"] := by decide +kernel

end Wts.Runtime
