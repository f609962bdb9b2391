/-
Module: Wts.Proofs.RuntimeRegistry
Purpose: The registry of stacks over whole runs of the supervisor.
Trusted boundary: none
Main exports: registry_within
-/
import Wts.Proofs.RuntimeRollback
import Wts.Library.MapRows

namespace Wts.Runtime

open List MapRows

open Std (ExtTreeMap)

/-- The calls that use the registry, with all that happens while they run. -/
inductive Call where
  | start (request : RuntimeStackRequest) (run : StartRun)
  | inspect (key : RuntimeStackKey) (lockPoisoned : Bool) (observations : ℕ → Observation)
  | stop (key : RuntimeStackKey) (lockPoisoned : Bool) (terminations : ℕ → Termination)
  | stopAll (lockPoisoned : Bool) (terminations : RuntimeStackKey → ℕ → Termination)

/-- The registry after a call. -/
def step (supervisor : RuntimeSupervisor) : Call → Option RuntimeSupervisor
  | .start request run => (startStackCancellable supervisor request run).map (·.supervisor)
  | .inspect key lockPoisoned observations =>
    some (inspectStack supervisor key lockPoisoned observations).1
  | .stop key lockPoisoned terminations =>
    some (stopStack supervisor key lockPoisoned terminations).1
  | .stopAll lockPoisoned terminations => some (stopAll supervisor lockPoisoned terminations).1

/-- The supervisors that some sequence of calls reaches from a new one. -/
inductive Reachable (limits : RuntimeLimits) : RuntimeSupervisor → Prop where
  | new {supervisor : RuntimeSupervisor} (created : newSupervisor limits = .ok supervisor) :
      Reachable limits supervisor
  | call {supervisor later : RuntimeSupervisor} {call : Call}
      (before : Reachable limits supervisor) (returned : step supervisor call = some later) :
      Reachable limits later

def stackPorts (stack : ManagedStack) : List UInt16 :=
  stack.services.map fun service => service.endpoint.port

structure SameStack (first second : ManagedStack) : Prop where
  key : first.key = second.key
  ports : stackPorts first = stackPorts second

theorem sameStack_stopped (terminations : ℕ → Termination) (stack : ManagedStack) :
    SameStack { stack with services := (stopServices terminations stack.services).1 } stack := by
  refine ⟨rfl, ?_⟩
  have endpoints := congrArg (List.map RuntimeEndpoint.port)
    (stopServices_endpoints terminations stack.services)
  rw [map_map, map_map] at endpoints
  exact endpoints

theorem observeService_endpoint (observation : Observation) (service : ManagedService) :
    (observeService observation service).1.endpoint = service.endpoint := by
  unfold observeService
  dsimp only
  split <;> rfl

theorem observeServices_endpoints (services : List ManagedService)
    (observations : ℕ → Observation) :
    (observeServices services observations).1.map (·.endpoint) = services.map (·.endpoint) := by
  induction services generalizing observations with
  | nil => rfl
  | cons service rest ih =>
    have endpoint := observeService_endpoint (observations 0) service
    rw [observeServices]
    split
    · rename_i observed error reply
      rw [reply] at endpoint
      dsimp only at endpoint ⊢
      rw [map_cons, map_cons, endpoint]
    rename_i observed reply
    rw [reply] at endpoint
    dsimp only at endpoint ⊢
    rw [map_cons, map_cons, endpoint, ih]

theorem sameStack_observed (observations : ℕ → Observation) (stack : ManagedStack) :
    SameStack { stack with services := (observeServices stack.services observations).1 } stack := by
  refine ⟨rfl, ?_⟩
  have endpoints := congrArg (List.map RuntimeEndpoint.port)
    (observeServices_endpoints stack.services observations)
  rw [map_map, map_map] at endpoints
  exact endpoints

def keptStacks (terminations : RuntimeStackKey → ℕ → Termination)
    (entries : List (RuntimeStackKey × ManagedStack)) : List (RuntimeStackKey × ManagedStack) :=
  entries.filterMap fun entry =>
    let cleanup := stopServices (terminations entry.1) entry.2.services
    if cleanup.2 then none else some (entry.1, { entry.2 with services := cleanup.1 })

theorem map_fst_keptStacks_sublist (terminations : RuntimeStackKey → ℕ → Termination)
    (entries : List (RuntimeStackKey × ManagedStack)) :
    ((keptStacks terminations entries).map Prod.fst).Sublist (entries.map Prod.fst) := by
  induction entries with
  | nil => exact .slnil
  | cons entry rest ih =>
    rw [keptStacks, filterMap_cons]
    dsimp only
    split
    · rename_i none
      exact .cons _ ih
    rename_i kept found
    split at found
    · cases found
    cases found
    exact .cons_cons _ ih

theorem stopEach_registry (terminations : RuntimeStackKey → ℕ → Termination)
    (entries : List (RuntimeStackKey × ManagedStack)) (registry : Registry)
    (distinct : (entries.map Prod.fst).Nodup)
    (fresh : ∀ key ∈ entries.map Prod.fst, registry[key]? = none) :
    (stopEach terminations entries registry).1.toList.Perm
      (keptStacks terminations entries ++ registry.toList) := by
  induction entries generalizing registry with
  | nil => exact .refl _
  | cons entry rest ih =>
    obtain ⟨key, stack⟩ := entry
    rw [map_cons, nodup_cons] at distinct
    have freshRest : ∀ other ∈ rest.map Prod.fst, registry[other]? = none :=
      fun other member => fresh other (mem_cons_of_mem _ member)
    simp only [stopEach, keptStacks, filterMap_cons]
    by_cases complete : (stopServices (terminations key) stack.services).2 = true
    · simp only [if_pos complete]
      exact ih registry distinct.2 freshRest
    simp only [if_neg complete]
    have later := ih (registry.insert key
      { stack with services := (stopServices (terminations key) stack.services).1 })
      distinct.2 (by
        intro other member
        rw [lookup_insert, if_neg, freshRest other member]
        rintro rfl
        exact distinct.1 member)
    refine later.trans ?_
    have inserted := toList_insert_of_none (fresh key mem_cons_self)
      { stack with services := (stopServices (terminations key) stack.services).1 }
    refine (inserted.append_left _).trans ?_
    exact perm_middle

/-- What a call can do to the registry: nothing, a new stack within the limits on unclaimed ports,
other states of the services of a stack, one stack less after complete cleanup, or the stacks that
`stop_all` could not clean up. -/
inductive Change (supervisor : RuntimeSupervisor) : Call → Registry → Prop where
  | unchanged (call : Call) : Change supervisor call supervisor.registry
  | started (request : RuntimeStackRequest) (run : StartRun) (stack : ManagedStack)
      (fresh : supervisor.registry[stack.key]? = none)
      (stackRoom : supervisor.registry.size < supervisor.limits.maxStacks)
      (serviceRoom : (registeredServices supervisor.registry).length + stack.services.length ≤
        supervisor.limits.maxServicesTotal)
      (distinct : (stackPorts stack).Nodup)
      (unclaimed : ∀ port ∈ stackPorts stack, port ∉ claimedPorts supervisor.registry) :
      Change supervisor (.start request run) (supervisor.registry.insert stack.key stack)
  | updated (call : Call) (key : RuntimeStackKey) (before after : ManagedStack)
      (registered : supervisor.registry[key]? = some before) (same : SameStack after before) :
      Change supervisor call (supervisor.registry.insert key after)
  | removed (key : RuntimeStackKey) (lockPoisoned : Bool) (terminations : ℕ → Termination)
      (stack : ManagedStack) (registered : supervisor.registry[key]? = some stack)
      (complete : (stopServices terminations stack.services).2 = true) :
      Change supervisor (.stop key lockPoisoned terminations) (supervisor.registry.erase key)
  | stoppedAll (lockPoisoned : Bool) (terminations : RuntimeStackKey → ℕ → Termination)
      (registry : Registry)
      (kept : registry.toList.Perm (keptStacks terminations supervisor.registry.toList)) :
      Change supervisor (.stopAll lockPoisoned terminations) registry

/-! ### Ports of a new stack -/

variable {claimed : List UInt16}

theorem reservePort_unclaimed {binds : UInt16 → Bool} {preferred port : UInt16}
    (found : reservePort binds preferred claimed = some port) : port ∉ claimed := by
  have := find?_some found
  simp only [decide_eq_true_eq] at this
  exact this.1

variable {reserved : List ReservedService}

/-- Every reserved port was free and is reserved once. -/
theorem reserveServices_spec {services : List RuntimeServiceRequest} {binds : ℕ → UInt16 → Bool}
    (done : reserveServices services binds claimed = .ok reserved) :
    reserved.map (·.request) = services ∧ (reserved.map (·.endpoint.port)).Nodup ∧
      ∀ port ∈ reserved.map (·.endpoint.port), port ∉ claimed := by
  induction services generalizing binds claimed reserved with
  | nil =>
    cases done
    exact ⟨rfl, nodup_nil, fun port member => absurd member not_mem_nil⟩
  | cons request rest ih =>
    rw [reserveServices] at done
    cases found : reservePort (binds 0) request.preferredPort claimed with
    | none =>
      rw [found] at done
      cases done
    | some port =>
      rw [found] at done
      dsimp only at done
      cases later : reserveServices rest (fun n => binds (n + 1)) (port :: claimed) with
      | error error =>
        rw [later] at done
        cases done
      | ok others =>
        rw [later] at done
        cases done
        obtain ⟨requests, distinct, unclaimed⟩ := ih later
        refine ⟨by rw [map_cons, requests], ?_, ?_⟩
        · rw [map_cons, nodup_cons]
          exact ⟨fun again => unclaimed port again mem_cons_self, distinct⟩
        intro other member
        rw [map_cons] at member
        rcases mem_cons.1 member with rfl | inside
        · exact reservePort_unclaimed found
        exact fun old => unclaimed other inside (mem_cons_of_mem _ old)

variable {service : ManagedService}

theorem waitUntilReady_kept {after : ManagedService} {timeout pollInterval : Duration}
    {polls : List Poll} {result : Except RuntimeError Unit}
    (returned : waitUntilReady service timeout pollInterval polls = some (after, result)) :
    after.child = service.child ∧ after.endpoint = service.endpoint := by
  induction polls generalizing service with
  | nil => cases returned
  | cons poll later ih =>
    simp only [waitUntilReady] at returned
    split at returned
    · cases returned
      exact ⟨rfl, rfl⟩
    split at returned
    · cases returned
      exact ⟨rfl, rfl⟩
    · cases returned
      exact ⟨rfl, rfl⟩
    split at returned
    · cases returned
      exact ⟨rfl, rfl⟩
    split at returned
    · cases returned
      exact ⟨rfl, rfl⟩
    split at returned
    · cases returned
      exact ⟨rfl, rfl⟩
    have kept := ih returned
    exact kept

variable {limits : RuntimeLimits}

theorem startService_spawned {run : ServiceRun}
    {reserved : ReservedService} (turn : startService limits run reserved = some (.ready service) ∨
      ∃ error, startService limits run reserved = some (.notReady service error)) :
    run.spawn = some service.child ∧ service.endpoint = reserved.endpoint := by
  unfold startService at turn
  split at turn
  · rcases turn with turn | ⟨_, turn⟩ <;> cases turn
  split at turn
  · rcases turn with turn | ⟨_, turn⟩ <;> cases turn
  split at turn
  · rcases turn with turn | ⟨_, turn⟩ <;> cases turn
  rename_i child spawned
  dsimp only at turn
  split at turn
  · rcases turn with turn | ⟨_, turn⟩ <;> cases turn
  all_goals
    rename_i waited
    obtain ⟨sameChild, sameEndpoint⟩ := waitUntilReady_kept waited
    rcases turn with turn | ⟨_, turn⟩ <;> cases turn
    rw [sameChild, sameEndpoint]
    exact ⟨spawned, rfl⟩

variable {run : StartRun}

theorem startServices_endpoints {services final : List ManagedService} {spawned : List Child}
    {stopped : List ManagedService} (ended : startServices limits run reserved services =
      some { result := .ok final, spawned, stopped }) :
    final.map (·.endpoint) = services.map (·.endpoint) ++ reserved.map (·.endpoint) := by
  induction reserved generalizing services with
  | nil =>
    cases ended
    simp
  | cons first rest ih =>
    rw [startServices] at ended
    split at ended
    · cases ended
    · cases ended
    · cases ended
    · cases ended
    rename_i service turn
    rw [ih ended, map_append, map_singleton, (startService_spawned (.inl turn)).2,
      append_assoc, map_cons, singleton_append]

variable {supervisor later : RuntimeSupervisor}

variable {request : RuntimeStackRequest}

/-- A stack is admitted when it is new and within the limits, and its ports can be reserved. -/
theorem admitStack_spec {prepared : PreparedStack}
    (admitted : admitStack supervisor request run = .ok (prepared, reserved)) :
    prepareStack run.canonicalDirectory request supervisor.limits = .ok prepared ∧
      supervisor.registry[prepared.key]? = none ∧
      supervisor.registry.size < supervisor.limits.maxStacks ∧
      (registeredServices supervisor.registry).length + prepared.services.length ≤
        supervisor.limits.maxServicesTotal ∧
      reserveServices prepared.services run.binds (claimedPorts supervisor.registry) =
        .ok reserved := by
  unfold admitStack at admitted
  split at admitted
  · cases admitted
  rename_i prepares
  split at admitted
  · cases admitted
  split at admitted
  · cases admitted
  split at admitted
  · cases admitted
  rename_i absent
  split at admitted
  · cases admitted
  split at admitted
  · cases admitted
  rename_i room
  split at admitted
  · cases admitted
  rename_i ports
  cases admitted
  simp only [not_or, ge_iff_le, not_le, gt_iff_lt, not_lt] at room
  refine ⟨prepares, ?_, room.1, room.2, ports⟩
  rw [ExtTreeMap.getElem?_eq_none]
  rwa [← ExtTreeMap.contains_iff_mem]

theorem change_of_start {outcome : StartOutcome}
    (returned : startStackCancellable supervisor request run = some outcome) :
    outcome.supervisor.limits = supervisor.limits ∧
      Change supervisor (.start request run) outcome.supervisor.registry := by
  unfold startStackCancellable at returned
  split at returned
  · cases returned
    exact ⟨rfl, .unchanged _⟩
  rename_i prepared reserved admitted
  split at returned
  · cases returned
  · cases returned
    exact ⟨rfl, .unchanged _⟩
  rename_i services spawned stopped ended
  cases returned
  obtain ⟨-, fresh, stackRoom, serviceRoom, ports⟩ := admitStack_spec admitted
  obtain ⟨requests, distinct, unclaimed⟩ := reserveServices_spec ports
  have endpoints := startServices_endpoints ended
  rw [map_nil, nil_append] at endpoints
  have samePorts : services.map (fun service => service.endpoint.port) =
      reserved.map fun service => service.endpoint.port := by
    have := congrArg (List.map RuntimeEndpoint.port) endpoints
    rw [map_map, map_map] at this
    exact this
  have sameLength : services.length = prepared.services.length := by
    have first := congrArg List.length endpoints
    have second := congrArg List.length requests
    rw [length_map, length_map] at first
    rw [length_map] at second
    exact first.trans second
  refine ⟨rfl, .started request run
    { key := prepared.key, workspaceRoot := prepared.workspaceRoot, services := services,
      startedAtUnixMs := run.now } fresh stackRoom ?_ ?_ ?_⟩
  · dsimp only
    rw [sameLength]
    exact serviceRoom
  · rw [stackPorts, samePorts]
    exact distinct
  rw [stackPorts, samePorts]
  exact unclaimed

theorem erase_insert (registry : Registry) (key : RuntimeStackKey) (stack : ManagedStack) :
    (registry.erase key).insert key stack = registry.insert key stack := by
  apply ExtTreeMap.ext_getElem?
  intro other
  rw [lookup_insert, lookup_insert, lookup_erase]
  split <;> rfl

variable {call : Call}

theorem change_of_step (returned : step supervisor call = some later) :
    later.limits = supervisor.limits ∧ Change supervisor call later.registry := by
  cases call with
  | start request run =>
    obtain ⟨outcome, call, rfl⟩ := Option.map_eq_some_iff.1 returned
    exact change_of_start call
  | inspect key lockPoisoned observations =>
    cases returned
    unfold inspectStack
    split
    · exact ⟨rfl, .unchanged _⟩
    split
    · exact ⟨rfl, .unchanged _⟩
    rename_i stack registered
    exact ⟨rfl, .updated _ key stack _ registered (sameStack_observed observations stack)⟩
  | stop key lockPoisoned terminations =>
    cases returned
    unfold stopStack
    split
    · exact ⟨rfl, .unchanged _⟩
    split
    · exact ⟨rfl, .unchanged _⟩
    rename_i stack registered
    dsimp only
    split
    · rename_i complete
      exact ⟨rfl, .removed key lockPoisoned terminations stack registered complete⟩
    dsimp only
    rw [erase_insert]
    exact ⟨rfl, .updated _ key stack _ registered (sameStack_stopped terminations stack)⟩
  | stopAll lockPoisoned terminations =>
    cases returned
    unfold stopAll
    split
    · exact ⟨rfl, .unchanged _⟩
    refine ⟨rfl, .stoppedAll lockPoisoned terminations _ ?_⟩
    have kept := stopEach_registry terminations supervisor.registry.toList ∅
      (nodup_keys _) (by simp)
    have empty : (∅ : Registry).toList = [] := rfl
    rwa [empty, append_nil] at kept

/-! ### The invariant -/

/-- The ceilings hold, ports are not shared, and every stack is filed under its own key. -/
structure Within (supervisor : RuntimeSupervisor) : Prop where
  stackCount : supervisor.registry.size ≤ supervisor.limits.maxStacks
  serviceCount :
    (registeredServices supervisor.registry).length ≤ supervisor.limits.maxServicesTotal
  ports : (claimedPorts supervisor.registry).Nodup
  uniqueKeys : (supervisor.registry.toList.map Prod.fst).Nodup
  ownKeys : ∀ (key : RuntimeStackKey) (stack : ManagedStack),
    supervisor.registry[key]? = some stack → stack.key = key

theorem claimedPorts_eq (registry : Registry) :
    claimedPorts registry = registry.toList.flatMap fun entry => stackPorts entry.2 := by
  rw [claimedPorts, registeredServices, map_flatMap]
  rfl

theorem length_registeredServices (registry : Registry) :
    (registeredServices registry).length = (claimedPorts registry).length := by
  rw [claimedPorts, length_map]

variable {key : RuntimeStackKey} {registry : Registry}

theorem claimedPorts_insert_of_none (fresh : registry[key]? = none) (stack : ManagedStack) :
    (claimedPorts (registry.insert key stack)).Perm (stackPorts stack ++ claimedPorts registry) := by
  rw [claimedPorts_eq, claimedPorts_eq]
  have rows := (toList_insert_of_none fresh stack).flatMap_right fun entry => stackPorts entry.2
  rwa [flatMap_cons] at rows

variable {after stack : ManagedStack}

theorem claimedPorts_perm_erase (registered : registry[key]? = some stack) :
    (claimedPorts registry).Perm (stackPorts stack ++ claimedPorts (registry.erase key)) := by
  rw [claimedPorts_eq, claimedPorts_eq]
  have rows := (toList_perm_erase registered).flatMap_right fun entry => stackPorts entry.2
  rwa [flatMap_cons] at rows

theorem claimedPorts_update {before : ManagedStack} (registered : registry[key]? = some before)
    (same : SameStack after before) :
    (claimedPorts (registry.insert key after)).Perm (claimedPorts registry) := by
  have gone : (registry.erase key)[key]? = none := by
    rw [lookup_erase, if_pos rfl]
  have written := claimedPorts_insert_of_none gone after
  rw [erase_insert, same.ports] at written
  exact written.trans (claimedPorts_perm_erase registered).symm

theorem keptStacks_ports_sublist (terminations : RuntimeStackKey → ℕ → Termination)
    (entries : List (RuntimeStackKey × ManagedStack)) :
    ((keptStacks terminations entries).flatMap fun entry => stackPorts entry.2).Sublist
      (entries.flatMap fun entry => stackPorts entry.2) := by
  induction entries with
  | nil => exact .slnil
  | cons entry rest ih =>
    rw [keptStacks, filterMap_cons, flatMap_cons]
    dsimp only
    split
    · exact ih.trans (sublist_append_right _ _)
    rename_i kept found
    split at found
    · cases found
    cases found
    rw [flatMap_cons, (sameStack_stopped (terminations entry.1) entry.2).ports]
    exact ih.append_left _

theorem mem_keptStacks {terminations : RuntimeStackKey → ℕ → Termination}
    {entries : List (RuntimeStackKey × ManagedStack)} :
    (key, after) ∈ keptStacks terminations entries ↔ ∃ before, (key, before) ∈ entries ∧
        (stopServices (terminations key) before.services).2 = false ∧ after =
          { before with services := (stopServices (terminations key) before.services).1 } := by
  simp only [keptStacks, mem_filterMap]
  constructor
  · rintro ⟨⟨key', before⟩, member, found⟩
    dsimp only at found
    split at found
    · cases found
    rename_i incomplete
    cases found
    exact ⟨before, member, by simpa using incomplete, rfl⟩
  rintro ⟨before, member, incomplete, rfl⟩
  exact ⟨(key, before), member, by simp [incomplete]⟩

theorem within_of_change (within : Within supervisor) (limits : later.limits = supervisor.limits)
    (change : Change supervisor call later.registry) : Within later := by
  have uniqueKeys := nodup_keys later.registry
  generalize result : later.registry = registry at change
  cases change with
  | unchanged =>
    obtain ⟨_, _⟩ := later
    cases result
    cases limits
    exact within
  | started request run stack fresh stackRoom serviceRoom distinct unclaimed =>
    have ports := claimedPorts_insert_of_none fresh stack
    refine ⟨?_, ?_, ?_, uniqueKeys, ?_⟩
    · rw [result, limits]
      exact ExtTreeMap.size_insert_le.trans stackRoom
    · rw [length_registeredServices, result, limits, ports.length_eq, length_append,
        ← length_registeredServices, stackPorts, length_map, Nat.add_comm]
      exact serviceRoom
    · rw [result, ports.nodup_iff, nodup_append']
      exact ⟨distinct, within.ports, fun port new old => unclaimed port new old⟩
    intro key other found
    rw [result, lookup_insert] at found
    split at found
    · rename_i same
      cases found
      exact same
    exact within.ownKeys key other found
  | updated _ key before after registered same =>
    have ports := claimedPorts_update registered same
    have present : key ∈ supervisor.registry := by
      rw [ExtTreeMap.mem_iff_isSome_getElem?, registered]
      rfl
    refine ⟨?_, ?_, ?_, uniqueKeys, ?_⟩
    · rw [result, limits, ExtTreeMap.size_insert, if_pos (ExtTreeMap.contains_iff_mem.2 present)]
      exact within.stackCount
    · rw [length_registeredServices, result, limits, ports.length_eq, ← length_registeredServices]
      exact within.serviceCount
    · rw [result, ports.nodup_iff]
      exact within.ports
    intro other stack found
    rw [result, lookup_insert] at found
    split at found
    · rename_i equal
      cases found
      rw [same.key, ← equal]
      exact within.ownKeys key before registered
    exact within.ownKeys other stack found
  | removed key lockPoisoned terminations stack registered complete =>
    have ports := claimedPorts_perm_erase registered
    refine ⟨?_, ?_, ?_, uniqueKeys, ?_⟩
    · rw [result, limits]
      exact ExtTreeMap.size_erase_le.trans within.stackCount
    · have before := within.serviceCount
      rw [length_registeredServices, ports.length_eq, length_append] at before
      rw [length_registeredServices, result, limits]
      omega
    · have before := within.ports
      rw [ports.nodup_iff] at before
      rw [result]
      exact (nodup_append'.1 before).2.1
    intro other found member
    rw [result, lookup_erase] at member
    split at member
    · cases member
    exact within.ownKeys other found member
  | stoppedAll lockPoisoned terminations _ kept =>
    have ports : (claimedPorts registry).Perm
        ((keptStacks terminations supervisor.registry.toList).flatMap
          fun entry => stackPorts entry.2) := by
      rw [claimedPorts_eq]
      exact kept.flatMap_right _
    have sublist := keptStacks_ports_sublist terminations supervisor.registry.toList
    rw [← claimedPorts_eq] at sublist
    refine ⟨?_, ?_, ?_, uniqueKeys, ?_⟩
    · have fewer := (map_fst_keptStacks_sublist terminations supervisor.registry.toList).length_le
      rw [length_map, length_map, ← kept.length_eq, ExtTreeMap.length_toList,
        ExtTreeMap.length_toList] at fewer
      rw [result, limits]
      exact fewer.trans within.stackCount
    · rw [length_registeredServices, result, limits, ports.length_eq]
      have before := within.serviceCount
      rw [length_registeredServices] at before
      exact sublist.length_le.trans before
    · rw [result, ports.nodup_iff]
      exact within.ports.sublist sublist
    intro key stack found
    rw [result] at found
    have row : (key, stack) ∈ registry.toList := mem_toList.2 found
    have member := kept.mem_iff.1 row
    obtain ⟨before, inside, _, rfl⟩ := mem_keptStacks.1 member
    exact within.ownKeys key before (mem_toList.1 inside)

theorem limits_of_reachable
    (reachable : Reachable limits supervisor) : supervisor.limits = limits := by
  induction reachable with
  | new created =>
    unfold newSupervisor at created
    split at created
    · cases created
    cases created
    rfl
  | call before returned ih => rw [(change_of_step returned).1, ih]

theorem within_of_reachable (reachable : Reachable limits supervisor) : Within supervisor := by
  induction reachable with
  | new created =>
    unfold newSupervisor at created
    split at created
    · cases created
    cases created
    exact ⟨Nat.zero_le _, Nat.zero_le _, nodup_nil, nodup_nil,
      fun key stack found => by cases found⟩
  | call before returned ih =>
    obtain ⟨limits, change⟩ := change_of_step returned
    exact within_of_change ih limits change

/-- The call reported complete cleanup of the stack under the key. -/
def CleanedUp (key : RuntimeStackKey) (stack : ManagedStack) : Call → Prop
  | .stop key' _ terminations =>
    key' = key ∧ (stopServices terminations stack.services).2 = true
  | .stopAll _ terminations => (stopServices (terminations key) stack.services).2 = true
  | _ => False

theorem leaves_only_cleaned (returned : step supervisor call = some later)
    (registered : supervisor.registry[key]? = some stack) (gone : later.registry[key]? = none) :
    CleanedUp key stack call := by
  obtain ⟨_, change⟩ := change_of_step returned
  generalize later.registry = registry at change gone
  cases change with
  | unchanged =>
    rw [registered] at gone
    cases gone
  | started request run new fresh =>
    rw [lookup_insert] at gone
    split at gone
    · cases gone
    rw [registered] at gone
    cases gone
  | updated _ key' before after present =>
    rw [lookup_insert] at gone
    split at gone
    · cases gone
    rw [registered] at gone
    cases gone
  | removed key' lockPoisoned terminations stack' present complete =>
    rw [lookup_erase] at gone
    split at gone
    · rename_i same
      subst same
      rw [registered, Option.some.injEq] at present
      subst present
      exact ⟨rfl, complete⟩
    rw [registered] at gone
    cases gone
  | stoppedAll lockPoisoned terminations _ kept =>
    by_contra incomplete
    have member : (key, { stack with
        services := (stopServices (terminations key) stack.services).1 }) ∈ registry.toList := by
      rw [kept.mem_iff, mem_keptStacks]
      exact ⟨stack, mem_toList.2 registered, by simpa [CleanedUp] using incomplete, rfl⟩
    rw [mem_toList, gone] at member
    cases member

/-- In every reachable state the limits hold, ports and keys are unique, and a stack leaves only after
complete cleanup. -/
theorem registry_within {limits : RuntimeLimits} {supervisor : RuntimeSupervisor}
    (reachable : Reachable limits supervisor) : (supervisor.registry.size ≤ limits.maxStacks ∧
      (registeredServices supervisor.registry).length ≤ limits.maxServicesTotal ∧
      (claimedPorts supervisor.registry).Nodup ∧ (supervisor.registry.toList.map Prod.fst).Nodup ∧
      ∀ (key : RuntimeStackKey) (stack : ManagedStack),
        supervisor.registry[key]? = some stack → stack.key = key) ∧
    ∀ (call : Call) (later : RuntimeSupervisor) (key : RuntimeStackKey) (stack : ManagedStack),
      step supervisor call = some later →
      supervisor.registry[key]? = some stack → later.registry[key]? = none →
      CleanedUp key stack call := by
  have within := within_of_reachable reachable
  have sameLimits := limits_of_reachable reachable
  refine ⟨⟨?_, ?_, within.ports, within.uniqueKeys, within.ownKeys⟩, ?_⟩
  · exact sameLimits ▸ within.stackCount
  · exact sameLimits ▸ within.serviceCount
  · exact fun call later key stack returned registered gone =>
      leaves_only_cleaned returned registered gone

def plainStart : Option RuntimeSupervisor :=
  step { limits := plainLimits, registry := ∅ }
    (.start (plainRequest [plainService "api" 41000, plainService "web" 41000]) (cancelledFrom 2))

theorem plainStart_isSome : plainStart.isSome = true := by
  decide +kernel

def startedSupervisor : RuntimeSupervisor :=
  plainStart.get plainStart_isSome

theorem reachable_startedSupervisor : Reachable plainLimits startedSupervisor :=
  .call (.new rfl) (Option.some_get plainStart_isSome).symm

/-- The invariant at a supervisor with a running stack. -/
theorem registry_within_started : (startedSupervisor.registry.size ≤ plainLimits.maxStacks ∧
      (registeredServices startedSupervisor.registry).length ≤ plainLimits.maxServicesTotal ∧
      (claimedPorts startedSupervisor.registry).Nodup ∧
      (startedSupervisor.registry.toList.map Prod.fst).Nodup ∧
      ∀ (key : RuntimeStackKey) (stack : ManagedStack),
        startedSupervisor.registry[key]? = some stack → stack.key = key) ∧
    ∀ (call : Call) (later : RuntimeSupervisor) (key : RuntimeStackKey) (stack : ManagedStack),
      step startedSupervisor call = some later →
      startedSupervisor.registry[key]? = some stack → later.registry[key]? = none →
      CleanedUp key stack call :=
  registry_within reachable_startedSupervisor

/-- Both services prefer one port and get neighbouring ones. -/
example : claimedPorts startedSupervisor.registry = [41000, 41001] := by decide +kernel

end Wts.Runtime
