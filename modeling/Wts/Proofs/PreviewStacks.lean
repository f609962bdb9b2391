/-
Module: Wts.Proofs.PreviewStacks
Purpose: The supervisor of a preview host, where every stack has one service.
Trusted boundary: none
Main exports: Sound, startStack_spec
-/
import Wts.App.WorkItemPreview
import Wts.Proofs.RuntimeOrder

namespace Wts.Previews

open List Wts.Runtime MapRows Text

def portAt (supervisor : RuntimeSupervisor) (key : RuntimeStackKey) : Option UInt16 :=
  supervisor.registry[key]?.bind fun stack =>
    stack.services.head?.map fun service => service.endpoint.port

/-- A stack of one service on a port of the preview range whose process can be signalled. -/
def Single (stack : ManagedStack) : Prop :=
  ∃ service, stack.services = [service] ∧ 20000 ≤ service.endpoint.port.toNat ∧
    service.child.id.toNat < 2 ^ 31

/-- The supervisor of a preview host: its limits, the invariant of every supervisor, and stacks of
one service. -/
structure Sound (supervisor : RuntimeSupervisor) : Prop where
  limits : supervisor.limits = previewLimits
  within : Within supervisor
  single : ∀ (key : RuntimeStackKey) (stack : ManagedStack),
    supervisor.registry[key]? = some stack → Single stack

theorem sound_previewSupervisor : Sound previewSupervisor.runtime := by
  refine ⟨rfl, ?_, ?_⟩
  · exact within_of_reachable (@Reachable.new previewLimits _ rfl)
  intro key stack registered
  cases registered

variable {key : RuntimeStackKey} {service : ManagedService} {stack : ManagedStack}
  {supervisor : RuntimeSupervisor}

theorem portAt_of_registered
    (registered : supervisor.registry[key]? = some stack) (services : stack.services = [service]) :
    portAt supervisor key = some service.endpoint.port := by
  rw [portAt, registered, Option.bind_some, services]
  rfl

theorem registered_of_portAt (sound : Sound supervisor)
    {port : UInt16} (held : portAt supervisor key = some port) :
    ∃ stack service, supervisor.registry[key]? = some stack ∧ stack.services = [service] ∧
      service.endpoint.port = port ∧ 20000 ≤ port.toNat ∧ service.child.id.toNat < 2 ^ 31 := by
  cases registered : supervisor.registry[key]? with
  | none =>
    rw [portAt, registered] at held
    cases held
  | some stack =>
    obtain ⟨service, services, range, signalled⟩ := sound.single key stack registered
    rw [portAt_of_registered registered services, Option.some.injEq] at held
    subst held
    exact ⟨stack, service, rfl, services, rfl, range, signalled⟩

theorem portAt_eq_none_iff (sound : Sound supervisor) :
    portAt supervisor key = none ↔ supervisor.registry[key]? = none := by
  constructor
  · intro free
    cases registered : supervisor.registry[key]? with
    | none => rfl
    | some stack =>
      obtain ⟨service, services, _⟩ := sound.single key stack registered
      rw [portAt_of_registered registered services] at free
      cases free
  intro free
  rw [portAt, free]
  rfl

theorem portAt_insert (supervisor : RuntimeSupervisor) (key other : RuntimeStackKey)
    (stack : ManagedStack) :
    portAt { supervisor with registry := supervisor.registry.insert key stack } other =
      if key = other then stack.services.head?.map fun service => service.endpoint.port
      else portAt supervisor other := by
  rw [portAt, lookup_insert]
  split
  · rfl
  rfl

theorem portAt_erase (supervisor : RuntimeSupervisor) (key other : RuntimeStackKey) :
    portAt { supervisor with registry := supervisor.registry.erase key } other =
      if key = other then none else portAt supervisor other := by
  rw [portAt, lookup_erase]
  split
  · rfl
  rfl

variable {after : ManagedService}

theorem Sound.update (sound : Sound supervisor)
    (registered : supervisor.registry[key]? = some stack) (services : stack.services = [service])
    (endpoint : after.endpoint = service.endpoint) (child : after.child = service.child) :
    Sound { supervisor with
      registry := supervisor.registry.insert key { stack with services := [after] } } := by
  refine ⟨sound.limits, ?_, ?_⟩
  · have same : SameStack { stack with services := [after] } stack := by
      refine ⟨rfl, ?_⟩
      simp only [stackPorts, services, map_cons, endpoint, map_nil]
    exact within_of_change sound.within rfl
      (.updated (.inspect key false fun _ => ⟨0, .running, fun _ => true⟩) key stack _ registered
        same)
  intro other found inside
  rw [lookup_insert] at inside
  split at inside
  · cases inside
    obtain ⟨service', services', range, signalled⟩ := sound.single key stack registered
    rw [services] at services'
    cases services'
    exact ⟨after, rfl, by rw [endpoint]; exact range, by rw [child]; exact signalled⟩
  exact sound.single other found inside

@[simp] theorem observeService_child (observation : Observation) (service : ManagedService) :
    (observeService observation service).1.child = service.child := by
  unfold observeService
  dsimp only
  split <;> rfl

theorem observeServices_single (service : ManagedService) (observations : ℕ → Observation) :
    observeServices [service] observations =
      ([(observeService (observations 0) service).1], (observeService (observations 0) service).2) := by
  rw [observeServices]
  split
  · rename_i observed error reply
    rw [reply]
  rename_i observed reply
  rw [reply]
  rfl

theorem stopServices_single (service : ManagedService) (terminations : ℕ → Termination) :
    stopServices terminations [service] =
      ([(stopService (terminations 0) service).1], (stopService (terminations 0) service).2) := by
  simp [stopServices]

theorem stopServices_complete {terminations : ℕ → Termination}
    (signalled : service.child.id.toNat < 2 ^ 31) (killed : (terminations 0).kill ≠ .failed)
    (waits : (terminations 0).waits = true) : (stopServices terminations [service]).2 = true := by
  have complete : terminateProcessGroup (terminations 0) service.child service.reaped = true :=
    decide_eq_true ⟨signalled, killed, .inr waits⟩
  rw [stopServices_single, stopService, if_pos complete]

theorem inspectStack_free
    (free : supervisor.registry[key]? = none) (observations : ℕ → Observation) :
    inspectStack supervisor key false observations = (supervisor, .error .stackNotFound) := by
  rw [inspectStack, free]
  rfl

theorem stopStack_free (free : supervisor.registry[key]? = none) (terminations : ℕ → Termination) :
    stopStack supervisor key false terminations = (supervisor, .error .stackNotFound) := by
  rw [stopStack, free]
  rfl

theorem inspectStack_registered (registered : supervisor.registry[key]? = some stack)
    (observations : ℕ → Observation) :
    inspectStack supervisor key false observations = ({ supervisor with
          registry := supervisor.registry.insert key
            { stack with services := (observeServices stack.services observations).1 } },
        (observeServices stack.services observations).2.map fun _ =>
          { stack with
            services := (observeServices stack.services observations).1 }.snapshot) := by
  rw [inspectStack, registered]
  rfl

theorem inspectStack_spec (sound : Sound supervisor)
    (key : RuntimeStackKey) (observations : ℕ → Observation) :
    Sound (inspectStack supervisor key false observations).1 ∧
      ∀ other, portAt (inspectStack supervisor key false observations).1 other =
        portAt supervisor other := by
  cases registered : supervisor.registry[key]? with
  | none =>
    rw [inspectStack_free registered]
    exact ⟨sound, fun _ => rfl⟩
  | some stack =>
    obtain ⟨service, services, _⟩ := sound.single key stack registered
    have endpoint := observeService_endpoint (observations 0) service
    rw [inspectStack_registered registered, services, observeServices_single]
    refine ⟨sound.update registered services endpoint (observeService_child _ _), ?_⟩
    intro other
    rw [portAt_insert]
    split
    · rename_i same
      rw [← same, portAt_of_registered registered services]
      exact congrArg (fun endpoint => some endpoint.port) endpoint
    rfl

theorem stopStack_spec (sound : Sound supervisor)
    (key : RuntimeStackKey) (terminations : ℕ → Termination) :
    Sound (stopStack supervisor key false terminations).1 ∧ (∀ other, key ≠ other →
        portAt (stopStack supervisor key false terminations).1 other = portAt supervisor other) ∧
      ∀ stack, supervisor.registry[key]? = some stack →
        ((stopServices terminations stack.services).2 = true →
          portAt (stopStack supervisor key false terminations).1 key = none ∧
            ∃ snapshot, (stopStack supervisor key false terminations).2 = .ok snapshot) ∧
        ((stopServices terminations stack.services).2 = false →
          portAt (stopStack supervisor key false terminations).1 key = portAt supervisor key ∧
            (stopStack supervisor key false terminations).2 = .error .cleanupFailed) := by
  cases registered : supervisor.registry[key]? with
  | none =>
    rw [stopStack_free registered]
    exact ⟨sound, fun _ _ => rfl, fun stack found => by cases found⟩
  | some stack =>
    obtain ⟨service, services, _⟩ := sound.single key stack registered
    have endpoint := stopService_endpoint (terminations 0) service
    cases complete : (stopServices terminations stack.services).2 with
    | true =>
      have result : stopStack supervisor key false terminations =
          ({ supervisor with registry := supervisor.registry.erase key },
            .ok { stack with
              services := (stopServices terminations stack.services).1 }.snapshot) := by
        rw [stopStack, registered]
        simp only [Bool.false_eq_true, if_false, complete, if_true]
      rw [result]
      refine ⟨⟨sound.limits, ?_, ?_⟩, ?_, ?_⟩
      · exact within_of_change sound.within rfl
          (.removed key false terminations stack registered complete)
      · intro other found inside
        rw [lookup_erase] at inside
        split at inside
        · cases inside
        exact sound.single other found inside
      · intro other different
        rw [portAt_erase, if_neg different]
      intro found same
      cases same
      refine ⟨fun _ => ⟨by rw [portAt_erase, if_pos rfl], _, rfl⟩, ?_⟩
      intro incomplete
      rw [complete] at incomplete
      cases incomplete
    | false =>
      have stays : (stopService (terminations 0) service).2 = false := by
        rw [← complete, services, stopServices_single]
      have result : stopStack supervisor key false terminations = ({ supervisor with
              registry := supervisor.registry.insert key
                { stack with services := [(stopService (terminations 0) service).1] } },
            .error .cleanupFailed) := by
        rw [stopStack, registered]
        simp only [Bool.false_eq_true, if_false, stays, erase_insert, services, stopServices_single]
      rw [result]
      refine ⟨sound.update registered services endpoint (stopService_child _ _), ?_, ?_⟩
      · intro other different
        rw [portAt_insert, if_neg different]
      intro found same
      cases same
      constructor
      · intro finished
        rw [complete] at finished
        cases finished
      intro _
      refine ⟨?_, rfl⟩
      rw [portAt_insert, if_pos rfl, portAt_of_registered registered services]
      exact congrArg (fun endpoint => some endpoint.port) endpoint

/-! ### Starting -/

theorem reservePort_spec {binds : UInt16 → Bool} {preferred port : UInt16} {claimed : List UInt16}
    (found : reservePort binds preferred claimed = some port) : preferred.toNat ≤ port.toNat := by
  have member := mem_of_find?_eq_some found
  obtain ⟨n, inside, rfl⟩ := mem_map.1 member
  rw [mem_range'_1] at inside
  have small : n < UInt16.size := by
    have := preferred.toNat_lt
    omega
  rw [UInt16.toNat_ofNat_of_lt' small]
  exact inside.1

variable {canonicalDirectory : PathBuf → Option PathBuf} {request : RuntimeStackRequest}

theorem prepareStack_single {service : RuntimeServiceRequest} {limits : RuntimeLimits}
    {prepared : PreparedStack} (services : request.services = [service])
    (independent : service.dependsOn = [])
    (done : prepareStack canonicalDirectory request limits = .ok prepared) :
    prepared.key = { workspaceId := request.workspaceId, stackId := request.stackId } ∧
      prepared.services = [{ service with id := trim service.id, dependsOn := [] }] := by
  obtain ⟨key, _, found, order, collects, known, ordered, same⟩ := prepareStack_eq_ok done
  rw [services] at collects
  have inMap := collected collects
  have sorted := (dependencyOrder_spec inMap known (by simp)).2.1 order ordered
  have alone : order = [trim service.id] := perm_singleton.1 sorted.perm
  have here : found[trim service.id]? = some service.prepared :=
    (inMap.lookup _ _).2 ⟨service, mem_singleton_self _, rfl, rfl⟩
  refine ⟨key, ?_⟩
  rw [same, alone, takeServices, here]
  simp [takeServices, RuntimeServiceRequest.prepared, independent, sortDedup]

theorem preferredPort_range (portDraw : ℕ) : 20000 ≤ (preferredPort portDraw).toNat := by
  have small : 20000 + portDraw % 30000 < UInt16.size := by
    have := Nat.mod_lt portDraw (show 0 < 30000 by decide)
    rw [UInt16.size]
    omega
  rw [preferredPort, UInt16.toNat_ofNat_of_lt' small]
  exact Nat.le_add_right _ _

/-- A service of the start that does not become ready is cleaned up. -/
def RollsBack (start : PreviewStart) : Prop :=
  ∀ (ui vite : PathBuf) (endpoint : RuntimeEndpoint) (service : ManagedService)
    (error : RuntimeError), start.prepared = .ok (ui, vite) →
    startService previewLimits (start.run.services 0)
      { request := previewService ui vite start, endpoint := endpoint } =
        some (.notReady service error) →
    terminateProcessGroup (start.run.terminations 0) service.child service.reaped = true

theorem strayChildren_nil : strayChildren [] [] = [] :=
  rfl

theorem strayChildren_stopped {termination : Termination}
    (complete : terminateProcessGroup termination service.child service.reaped = true) :
    strayChildren [service.child] [(stopService termination service).1] = [] := by
  simp [strayChildren, stopService, complete]

/-- What a started stack looks like: one sound service on a free key. -/
structure Launched (supervisor later : RuntimeSupervisor) (key : RuntimeStackKey)
    (snapshot : RuntimeStackSnapshot) (port : UInt16) : Prop where
  first : snapshot.services.head?.map (fun service => service.endpoint.port) = some port
  range : 20000 ≤ port.toNat
  free : portAt supervisor key = none
  ports : ∀ other, portAt later other = if key = other then some port else portAt supervisor other
  sound : Sound later

/-- What a start leaves in the registry. -/
theorem startStack_spec (sound : Sound supervisor)
    {candidate ui vite : PathBuf} {start : PreviewStart}
    {outcome : StartOutcome} (prepared : start.prepared = .ok (ui, vite))
    (returned : startStackCancellable supervisor (previewRequest key candidate ui vite start)
      start.run = some outcome) :
    (∃ error, outcome.result = .error error ∧ outcome.supervisor = supervisor ∧
        (RollsBack start → strayChildren outcome.spawned outcome.stopped = [])) ∨
      ∃ snapshot port, outcome.result = .ok snapshot ∧
        Launched supervisor outcome.supervisor key snapshot port := by
  have change := change_of_start returned
  unfold startStackCancellable at returned
  split at returned
  · cases returned
    exact .inl ⟨_, rfl, rfl, fun _ => strayChildren_nil⟩
  rename_i stack reserved admitted
  obtain ⟨done, fresh, _, _, ports⟩ := admitStack_spec admitted
  obtain ⟨stackKey, services⟩ := @prepareStack_single _ _ (previewService ui vite start) _ _
    rfl rfl done
  have same : { previewService ui vite start with
      id := trim (previewService ui vite start).id, dependsOn := [] } =
        previewService ui vite start := by
    have trimmed : trim "ui" = "ui" := by decide +kernel
    simp only [previewService, trimmed]
  rw [same] at services
  rw [services, reserveServices] at ports
  cases found : reservePort (start.run.binds 0) (previewService ui vite start).preferredPort
      (claimedPorts supervisor.registry) with
  | none =>
    rw [found] at ports
    cases ports
  | some port =>
    rw [found] at ports
    cases ports
    have range := (preferredPort_range start.portDraw).trans (reservePort_spec found)
    rw [startServices, length_nil] at returned
    cases turn : startService supervisor.limits (start.run.services 0)
        { request := previewService ui vite start,
          endpoint := { host := "127.0.0.1", port := port } } with
    | none =>
      rw [turn] at returned
      cases returned
    | some ended =>
      rw [turn] at returned
      cases ended with
      | interrupted error =>
        cases returned
        exact .inl ⟨error, rfl, rfl, fun _ => strayChildren_nil⟩
      | spawnFailed error =>
        cases returned
        exact .inl ⟨error, rfl, rfl, fun _ => strayChildren_nil⟩
      | notReady service error =>
        cases returned
        refine .inl ⟨_, rfl, rfl, fun rollsBack => ?_⟩
        rw [nil_append, stopServices_single]
        rw [sound.limits] at turn
        exact strayChildren_stopped (rollsBack ui vite _ service error prepared turn)
      | ready service =>
        obtain ⟨spawned, endpoint⟩ := startService_spawned (.inl turn)
        cases returned
        have ownKey : stack.key = key := stackKey
        have ports : service.endpoint.port = port := congrArg RuntimeEndpoint.port endpoint
        refine .inr ⟨_, port, rfl, congrArg some ports, range, ?_, ?_, ?_⟩
        · rw [portAt_eq_none_iff sound, ← ownKey]
          exact fresh
        · intro other
          dsimp only
          rw [portAt_insert supervisor, ownKey, nil_append, head?_cons, Option.map_some, ports]
        refine ⟨sound.limits, within_of_change sound.within change.1 change.2, ?_⟩
        intro other inserted inside
        dsimp only at inside
        rw [lookup_insert] at inside
        split at inside
        · cases inside
          refine ⟨service, rfl, ?_, start.processIds 0 service.child spawned⟩
          rw [ports]
          exact range
        exact sound.single other inserted inside

end Wts.Previews
