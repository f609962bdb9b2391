/-
Module: Wts.Proofs.PreviewClaims
Purpose: Who can close a preview, over whole runs of starts and stops.
Trusted boundary: none
Main exports: previews_close
-/
import Wts.Proofs.PreviewStacks

namespace Wts.Previews

open List Option Wts.Runtime MapRows

/-- A stop with another claim than that of the latest successful start changes nothing. -/
def StopsNothing (urls : UrlCodec) (tracked : Tracked) (call : StopCall) : Prop :=
  (∀ url, tracked.latest[previewKey call.workspaceId call.taskId]? ≠ some (call.claimId, url)) →
    stopPreviewProcess urls tracked.host call = (tracked.host, .ok ())

/-- A stop with the claim and the address of the latest successful start leaves no stack of the
task, or it fails and a later stop with the same claim and address can still do so. -/
def Closes (urls : UrlCodec) (tracked : Tracked) (call : StopCall) : Prop :=
  tracked.latest[previewKey call.workspaceId call.taskId]? =
      some (call.claimId, call.expectedUrl) →
    match stopPreviewProcess urls tracked.host call with
    | (host, .ok ()) =>
      host.runtime.registry[previewKey call.workspaceId call.taskId]? = none
    | (host, .error _) =>
      ∃ (observations : ℕ → Observation) (terminations : ℕ → Termination),
        (stopPreviewProcess urls host
          { call with observations := observations, terminations := terminations }).1.runtime.registry[
            previewKey call.workspaceId call.taskId]? = none

/-- A new start of a task can remove its registered stack. -/
def Recoverable (urls : UrlCodec) (tracked : Tracked) : Prop :=
  ∀ workspaceId taskId : Uuid,
    tracked.host.runtime.registry[previewKey workspaceId taskId]? ≠ none →
    ∃ (call : StartCall) (later : Tracked), call.taskId = taskId ∧
      step urls tracked (.start call) = some later ∧
      later.host.runtime.registry[previewKey workspaceId taskId]? = none

/-- Every cleanup that a start makes of what is registered for its task succeeds, and the registered
process can be observed. -/
structure CleansUp (host : PreviewHost) (key : RuntimeStackKey) (start : PreviewStart) : Prop where
  failedPreparation : ∀ (error : String) (stack : ManagedStack),
    start.prepared = .error error → host.runtime.registry[key]? = some stack →
    (stopServices start.failedPreparation stack.services).2 = true
  observed : ∀ (paths : PathBuf × PathBuf) (stack : ManagedStack),
    start.prepared = .ok paths → host.runtime.registry[key]? = some stack →
    (observeServices stack.services start.observations).2 = .ok ()
  stopBefore : ∀ (paths : PathBuf × PathBuf) (stack : ManagedStack),
    start.prepared = .ok paths → host.runtime.registry[key]? = some stack →
    reusablePort host.proofs key
      { stack with
        services := (observeServices stack.services start.observations).1 }.snapshot
      start.existingReply = none →
    (stopServices start.stopBefore
      (observeServices stack.services start.observations).1).2 = true
  stopAfter : previewIdentityMatches start.startedReply start.probeSecret = false →
    (start.stopAfter 0).kill ≠ .failed ∧ (start.stopAfter 0).waits = true

/-- The condition on a start that reaches its process: the route keeps the port, a service that does
not become ready is cleaned up, and a task with an earlier successful start is cleaned up. -/
def StartMeets (urls : UrlCodec) (tracked : Tracked) (call : StartCall) : Prop :=
  ∀ candidate, call.loaded = .ok candidate → call.matchesCheckTarget = .ok true →
    (∀ port : UInt16, 20000 ≤ port.toNat →
      urls.port (previewAddress urls candidate.trustedSource (previewUrl port)) = some port) ∧
    RollsBack call.start ∧
    (tracked.latest[previewKey candidate.workspaceId call.taskId]? ≠ none →
      CleansUp tracked.host (previewKey candidate.workspaceId call.taskId) call.start)

/-- The condition on a stop with the latest claim and address: the process can be observed. -/
def StopMeets (tracked : Tracked) (call : StopCall) : Prop :=
  tracked.latest[previewKey call.workspaceId call.taskId]? =
      some (call.claimId, call.expectedUrl) →
    ∀ stack, tracked.host.runtime.registry[previewKey call.workspaceId call.taskId]? = some stack →
      (observeServices stack.services call.observations).2 = .ok ()

/-- The condition on a call in a state. -/
def Meets (urls : UrlCodec) (tracked : Tracked) : Call → Prop
  | .start call => StartMeets urls tracked call
  | .stop call => StopMeets tracked call

/-- The states that calls under a condition reach from a new host. -/
inductive Run (urls : UrlCodec) (condition : Tracked → Call → Prop) : Tracked → Prop where
  | initial : Run urls condition Tracked.initial
  | call {tracked later : Tracked} {call : Call} (before : Run urls condition tracked)
      (meets : condition tracked call) (returned : step urls tracked call = some later) :
      Run urls condition later

/-! ### What a start does -/

/-- Everything that a start of a preview process can do to the host. -/
inductive StartEffect (host : PreviewHost) (key : RuntimeStackKey) (claimId : Uuid)
    (start : PreviewStart) (outcome : PreviewOutcome) : Prop where
  | failed (detail : String) (result : outcome.result = .error detail)
      (sound : Sound outcome.host.runtime) (proofs : outcome.host.proofs = host.proofs.erase key)
      (others : ∀ other, key ≠ other →
        portAt outcome.host.runtime other = portAt host.runtime other)
      (cleared : CleansUp host key start → portAt outcome.host.runtime key = none)
      (strays : RollsBack start → outcome.strays = [])
  | reused (port : UInt16) (result : outcome.result = .ok (previewUrl port))
      (sound : Sound outcome.host.runtime)
      (proofs : outcome.host.proofs =
        host.proofs.modify key fun proof => { proof with claimId := claimId })
      (proved : host.proofs[key]? ≠ none)
      (ports : ∀ other, portAt outcome.host.runtime other = portAt host.runtime other)
      (held : portAt host.runtime key = some port) (strays : outcome.strays = [])
  | launched (port : UInt16) (proof : PreviewProof) (result : outcome.result = .ok (previewUrl port))
      (sound : Sound outcome.host.runtime)
      (proofs : outcome.host.proofs = (host.proofs.erase key).insert key proof)
      (claimed : proof.claimId = claimId)
      (others : ∀ other, key ≠ other →
        portAt outcome.host.runtime other = portAt host.runtime other)
      (held : portAt outcome.host.runtime key = some port) (strays : outcome.strays = [])

variable {candidate : PathBuf} {claimId : Uuid} {host : PreviewHost} {key : RuntimeStackKey}

/-- A failed launch leaves no preview of its key when its child can be stopped; other keys keep theirs. -/
theorem launchPreview_spec (sound : Sound host.runtime)
    {ui vite : PathBuf} {start : PreviewStart} {outcome : PreviewOutcome}
    (prepared : start.prepared = .ok (ui, vite))
    (returned : launchPreview host key candidate ui vite claimId start = some outcome) :
    (∃ detail, outcome.result = .error detail ∧ Sound outcome.host.runtime ∧
        outcome.host.proofs = host.proofs.erase key ∧
        (∀ other, key ≠ other → portAt outcome.host.runtime other = portAt host.runtime other) ∧
        (portAt host.runtime key = none →
          (previewIdentityMatches start.startedReply start.probeSecret = false →
            (start.stopAfter 0).kill ≠ .failed ∧ (start.stopAfter 0).waits = true) →
          portAt outcome.host.runtime key = none) ∧ (RollsBack start → outcome.strays = [])) ∨
      ∃ port proof, outcome.result = .ok (previewUrl port) ∧ Sound outcome.host.runtime ∧
        outcome.host.proofs = (host.proofs.erase key).insert key proof ∧ proof.claimId = claimId ∧
        (∀ other, key ≠ other → portAt outcome.host.runtime other = portAt host.runtime other) ∧
        portAt outcome.host.runtime key = some port ∧ outcome.strays = [] := by
  unfold launchPreview at returned
  dsimp only at returned
  cases started : startStackCancellable host.runtime (previewRequest key candidate ui vite start)
      start.run with
  | none =>
    rw [started] at returned
    cases returned
  | some reply =>
    have spec := startStack_spec sound prepared started
    obtain ⟨result, supervisor, spawned, stopped⟩ := reply
    rw [started] at returned
    rcases spec with ⟨error, failed, same, rollsBack⟩ | ⟨snapshot, port, ok, launched⟩
    · dsimp only at failed same
      subst failed same
      cases returned
      exact .inl ⟨_, rfl, sound, rfl, fun _ _ => rfl, fun free _ => free, rollsBack⟩
    dsimp only at ok launched
    subst ok
    dsimp only at returned
    obtain ⟨service, first, samePort⟩ := map_eq_some_iff.1 launched.first
    rw [first] at returned
    dsimp only at returned
    have held : portAt supervisor key = some port := by
      rw [launched.ports, if_pos rfl]
    have others : ∀ other, key ≠ other → portAt supervisor other = portAt host.runtime other := by
      intro other different
      rw [launched.ports, if_neg different]
    by_cases identity : previewIdentityMatches start.startedReply start.probeSecret = true
    · rw [if_pos identity] at returned
      cases returned
      exact .inr ⟨port, _, by rw [samePort], launched.sound, rfl, rfl, others, held, rfl⟩
    rw [if_neg identity] at returned
    cases returned
    obtain ⟨stopSound, stopOthers, stops⟩ := stopStack_spec launched.sound key start.stopAfter
    refine .inl ⟨_, rfl, stopSound, rfl, ?_, ?_, fun _ => rfl⟩
    · intro other different
      rw [stopOthers other different, others other different]
    intro _ cleanup
    obtain ⟨killed, waits⟩ := cleanup (Bool.eq_false_iff.2 identity)
    obtain ⟨stack, service', registered, services, _, _, signalled⟩ :=
      registered_of_portAt launched.sound held
    refine ((stops stack registered).1 ?_).1
    rw [services]
    exact stopServices_complete signalled killed waits

variable {existing : RuntimeStackSnapshot} {observations : ℕ → Observation}

variable {supervisor : RuntimeSupervisor}

theorem registered_of_inspected
    (inspected : (inspectStack supervisor key false observations).2 = .ok existing) :
    ∃ stack, supervisor.registry[key]? = some stack ∧ existing = { stack with
        services := (observeServices stack.services observations).1 }.snapshot := by
  cases registered : supervisor.registry[key]? with
  | none =>
    rw [inspectStack_free registered] at inspected
    cases inspected
  | some stack =>
    rw [inspectStack_registered registered] at inspected
    dsimp only at inspected
    cases observed : (observeServices stack.services observations).2 with
    | error error =>
      rw [observed] at inspected
      cases inspected
    | ok finished =>
      rw [observed] at inspected
      cases inspected
      exact ⟨stack, rfl, rfl⟩

theorem reusablePort_spec (sound : Sound host.runtime) {reply : Option String} {port : UInt16}
    (inspected : (inspectStack host.runtime key false observations).2 = .ok existing)
    (reusable : reusablePort host.proofs key existing reply = some port) :
    host.proofs[key]? ≠ none ∧ portAt host.runtime key = some port := by
  obtain ⟨stack, registered, snapshot⟩ := registered_of_inspected inspected
  obtain ⟨service, services, _⟩ := sound.single key stack registered
  have endpoint := observeService_endpoint (observations 0) service
  rw [snapshot] at reusable
  unfold reusablePort at reusable
  simp only [ManagedStack.snapshot, services, observeServices_single, map_cons, map_nil,
    head?_cons] at reusable
  split at reusable
  · rename_i reuse
    cases reusable
    constructor
    · intro absent
      rw [absent] at reuse
      exact absurd reuse.2 (by simp)
    rw [portAt_of_registered registered services]
    exact congrArg (fun endpoint => some endpoint.port) endpoint.symm
  cases reusable

/-- A launch after the registered process was observed or stopped. -/
theorem launchPreview_effect {runtime : RuntimeSupervisor} (sound : Sound runtime)
    {ui vite : PathBuf} {start : PreviewStart} {outcome : PreviewOutcome}
    (prepared : start.prepared = .ok (ui, vite))
    (others : ∀ other, key ≠ other → portAt runtime other = portAt host.runtime other)
    (cleared : CleansUp host key start → portAt runtime key = none)
    (returned : launchPreview { host with runtime := runtime } key candidate ui vite claimId start =
      some outcome) : StartEffect host key claimId start outcome := by
  rcases launchPreview_spec sound prepared returned with
    ⟨detail, failed, laterSound, proofs, same, later, strays⟩ |
      ⟨port, proof, ok, laterSound, proofs, claimed, same, held, strays⟩
  · refine .failed detail failed laterSound proofs ?_ ?_ strays
    · intro other different
      rw [same other different, others other different]
    · exact fun cleansUp => later (cleared cleansUp) cleansUp.stopAfter
  refine .launched port proof ok laterSound proofs claimed ?_ held strays
  intro other different
  rw [same other different, others other different]

theorem startPreviewProcess_spec (sound : Sound host.runtime) {start : PreviewStart}
    {outcome : PreviewOutcome}
    (returned : startPreviewProcess host key candidate claimId start = some outcome) :
    StartEffect host key claimId start outcome := by
  unfold startPreviewProcess at returned
  cases prepared : start.prepared with
  | error error =>
    rw [prepared] at returned
    cases returned
    obtain ⟨stopSound, stopOthers, stops⟩ := stopStack_spec sound key start.failedPreparation
    refine .failed error rfl stopSound rfl stopOthers ?_ (fun _ => rfl)
    intro cleansUp
    cases registered : host.runtime.registry[key]? with
    | none =>
      dsimp only
      rw [stopStack_free registered]
      exact (portAt_eq_none_iff sound).2 registered
    | some stack =>
      exact ((stops stack registered).1
        (cleansUp.failedPreparation error stack prepared registered)).1
  | ok paths =>
    obtain ⟨ui, vite⟩ := paths
    rw [prepared] at returned
    dsimp only at returned
    obtain ⟨inspectSound, inspectPorts⟩ := inspectStack_spec sound key start.observations
    cases inspected : (inspectStack host.runtime key false start.observations).2 with
    | error error =>
      rw [inspected] at returned
      dsimp only at returned
      refine launchPreview_effect inspectSound prepared (fun other _ => inspectPorts other) ?_ returned
      intro cleansUp
      rw [inspectPorts, portAt_eq_none_iff sound]
      cases registered : host.runtime.registry[key]? with
      | none => rfl
      | some stack =>
        rw [inspectStack_registered registered,
          cleansUp.observed _ stack prepared registered] at inspected
        cases inspected
    | ok existing =>
      rw [inspected] at returned
      dsimp only at returned
      cases reusable : reusablePort host.proofs key existing start.existingReply with
      | some port =>
        rw [reusable] at returned
        cases returned
        obtain ⟨proved, held⟩ := reusablePort_spec sound inspected reusable
        exact .reused port rfl inspectSound rfl proved inspectPorts held rfl
      | none =>
        rw [reusable] at returned
        dsimp only at returned
        obtain ⟨stopSound, stopOthers, stops⟩ :=
          stopStack_spec inspectSound key start.stopBefore
        refine launchPreview_effect stopSound prepared ?_ ?_ returned
        · intro other different
          rw [stopOthers other different, inspectPorts]
        intro cleansUp
        obtain ⟨stack, registered, snapshot⟩ := registered_of_inspected inspected
        rw [snapshot] at reusable
        have complete := cleansUp.stopBefore _ stack prepared registered reusable
        rw [inspectStack_registered registered] at stops ⊢
        exact ((stops _ (by rw [lookup_insert, if_pos rfl])).1 complete).1

variable {urls : UrlCodec}

theorem stopPreviewProcess_other {call : StopCall}
    (other : ∀ proof, host.proofs[previewKey call.workspaceId call.taskId]? = some proof →
      proof.claimId ≠ call.claimId) : stopPreviewProcess urls host call = (host, .ok ()) := by
  unfold stopPreviewProcess
  dsimp only
  rw [if_pos]
  cases found : host.proofs[previewKey call.workspaceId call.taskId]? with
  | none => rfl
  | some proof => exact decide_eq_true (other proof found)

/-- Everything that a stop can do to the host: at most other states of services, or the stack and the
proof of its key are gone. -/
inductive StopEffect (host : PreviewHost) (key : RuntimeStackKey) :
    PreviewHost × Except PreviewError Unit → Prop where
  | kept (later : PreviewHost) (result : Except PreviewError Unit) (sound : Sound later.runtime)
      (proofs : later.proofs = host.proofs)
      (ports : ∀ other, portAt later.runtime other = portAt host.runtime other) :
      StopEffect host key (later, result)
  | closed (later : PreviewHost) (sound : Sound later.runtime)
      (proofs : later.proofs = host.proofs.erase key)
      (others : ∀ other, key ≠ other → portAt later.runtime other = portAt host.runtime other)
      (cleared : portAt later.runtime key = none) :
      StopEffect host key (later, .ok ())

theorem stopStack_effect (sound : Sound supervisor) {stack : ManagedStack}
    (registered : supervisor.registry[key]? = some stack) (terminations : ℕ → Termination) :
    (∃ snapshot, (stopStack supervisor key false terminations).2 = .ok snapshot ∧
        portAt (stopStack supervisor key false terminations).1 key = none) ∨
      ((stopStack supervisor key false terminations).2 = .error .cleanupFailed ∧
        (stopServices terminations stack.services).2 = false ∧
        ∀ other, portAt (stopStack supervisor key false terminations).1 other =
          portAt supervisor other) := by
  obtain ⟨_, others, stops⟩ := stopStack_spec sound key terminations
  cases complete : (stopServices terminations stack.services).2 with
  | true =>
    obtain ⟨cleared, snapshot, ok⟩ := (stops stack registered).1 complete
    exact .inl ⟨snapshot, ok, cleared⟩
  | false =>
    obtain ⟨same, failed⟩ := (stops stack registered).2 complete
    refine .inr ⟨failed, rfl, fun other => ?_⟩
    by_cases equal : key = other
    · rw [← equal]
      exact same
    exact others other equal

/-- What a stop of a preview leaves in the host. -/
theorem stopPreviewProcess_spec (urls : UrlCodec) (sound : Sound host.runtime)
    (call : StopCall) : StopEffect host (previewKey call.workspaceId call.taskId)
      (stopPreviewProcess urls host call) := by
  unfold stopPreviewProcess
  dsimp only
  generalize keyed : previewKey call.workspaceId call.taskId = key
  split
  · exact .kept host _ sound rfl fun _ => rfl
  obtain ⟨inspectSound, inspectPorts⟩ := inspectStack_spec sound key call.observations
  cases inspected : (inspectStack host.runtime key false call.observations).2 with
  | error error => exact .kept _ _ inspectSound rfl inspectPorts
  | ok existing =>
    dsimp only
    split
    · obtain ⟨stack, registered, _⟩ := registered_of_inspected inspected
      have observed : (inspectStack host.runtime key false call.observations).1.registry[key]? =
          some { stack with
            services := (observeServices stack.services call.observations).1 } := by
        rw [inspectStack_registered registered, lookup_insert, if_pos rfl]
      obtain ⟨stopSound, others, _⟩ := stopStack_spec inspectSound key call.terminations
      rcases stopStack_effect inspectSound observed call.terminations with
        ⟨snapshot, ok, cleared⟩ | ⟨failed, _, same⟩
      · rw [ok]
        refine .closed _ stopSound rfl ?_ cleared
        intro other different
        exact (others other different).trans (inspectPorts other)
      rw [failed]
      exact .kept _ _ stopSound rfl fun other => (same other).trans (inspectPorts other)
    exact .kept _ _ inspectSound rfl inspectPorts

theorem stopPreviewProcess_free (urls : UrlCodec) (sound : Sound host.runtime) {call : StopCall}
    (free : portAt host.runtime (previewKey call.workspaceId call.taskId) = none) :
    Sound (stopPreviewProcess urls host call).1.runtime ∧
      portAt (stopPreviewProcess urls host call).1.runtime
        (previewKey call.workspaceId call.taskId) = none := by
  have effect := stopPreviewProcess_spec urls sound call
  generalize stopPreviewProcess urls host call = reply at effect ⊢
  cases effect with
  | kept later result sound proofs ports => exact ⟨sound, (ports _).trans free⟩
  | closed later sound proofs others cleared => exact ⟨sound, cleared⟩

theorem stopPreviewProcess_own (sound : Sound host.runtime)
    {call : StopCall} {proof : PreviewProof} {port : UInt16}
    (proved : host.proofs[previewKey call.workspaceId call.taskId]? = some proof)
    (own : proof.claimId = call.claimId)
    (held : portAt host.runtime (previewKey call.workspaceId call.taskId) = some port)
    (address : urls.port call.expectedUrl = some port) (observable : ∀ stack,
      host.runtime.registry[previewKey call.workspaceId call.taskId]? = some stack →
      (observeServices stack.services call.observations).2 = .ok ()) :
    ∃ later, Sound later.runtime ∧ ((stopPreviewProcess urls host call = (later, .ok ()) ∧
          portAt later.runtime (previewKey call.workspaceId call.taskId) = none) ∨
        (∃ error, stopPreviewProcess urls host call = (later, .error error)) ∧
          ¬ ((call.terminations 0).kill ≠ .failed ∧ (call.terminations 0).waits = true) ∧
          later.proofs = host.proofs ∧
          ∀ other, portAt later.runtime other = portAt host.runtime other) := by
  unfold stopPreviewProcess
  dsimp only
  generalize previewKey call.workspaceId call.taskId = key at proved held observable ⊢
  obtain ⟨stack, service, registered, services, samePort, _, signalled⟩ :=
    registered_of_portAt sound held
  obtain ⟨inspectSound, inspectPorts⟩ := inspectStack_spec sound key call.observations
  have claimed : ¬ (host.proofs[key]?.all fun proof => proof.claimId ≠ call.claimId) = true := by
    rw [proved]
    simp [own]
  have inspected : (inspectStack host.runtime key false call.observations).2 = .ok { stack with
        services := (observeServices stack.services call.observations).1 }.snapshot := by
    rw [inspectStack_registered registered, observable stack registered]
    rfl
  have observed : (inspectStack host.runtime key false call.observations).1.registry[key]? =
      some { stack with services := (observeServices stack.services call.observations).1 } := by
    rw [inspectStack_registered registered, lookup_insert, if_pos rfl]
  have atPort : (({ stack with
      services := (observeServices stack.services call.observations).1 }.snapshot.services.head?).any
        fun first : RuntimeServiceSnapshot =>
          some first.endpoint.port = urls.port call.expectedUrl) = true := by
    have endpoint := observeService_endpoint (call.observations 0) service
    rw [address, ← samePort, ← endpoint]
    simp [ManagedStack.snapshot, services, observeServices_single, ManagedService.snapshot]
  rw [if_neg claimed, inspected]
  dsimp only
  rw [if_pos atPort]
  obtain ⟨stopSound, _⟩ := stopStack_spec inspectSound key call.terminations
  rcases stopStack_effect inspectSound observed call.terminations with
    ⟨snapshot, ok, cleared⟩ | ⟨failed, incomplete, same⟩
  · rw [ok]
    exact ⟨_, stopSound, .inl ⟨rfl, cleared⟩⟩
  rw [failed]
  refine ⟨_, stopSound, .inr ⟨⟨_, rfl⟩, ?_, rfl, ?_⟩⟩
  · rintro ⟨killed, waits⟩
    rw [services, observeServices_single, stopServices_complete _ killed waits] at incomplete
    · cases incomplete
    rw [observeService_child]
    exact signalled
  intro other
  exact (same other).trans (inspectPorts other)

/-! ### The invariant -/

/-- Proofs belong to the latest successful start, and what is registered for a task with such a start
has its proof and sits at the port of its address. -/
structure Consistent (urls : UrlCodec) (tracked : Tracked) : Prop where
  sound : Sound tracked.host.runtime
  proofs : ∀ (key : RuntimeStackKey) (proof : PreviewProof),
    tracked.host.proofs[key]? = some proof → ∃ url, tracked.latest[key]? = some (proof.claimId, url)
  owned : ∀ (key : RuntimeStackKey) (claimId : Uuid) (url : String) (port : UInt16),
    tracked.latest[key]? = some (claimId, url) → portAt tracked.host.runtime key = some port →
    urls.port url = some port ∧
      ∃ proof, tracked.host.proofs[key]? = some proof ∧ proof.claimId = claimId
  strays : tracked.strays = []

theorem consistent_initial (urls : UrlCodec) : Consistent urls Tracked.initial := by
  refine ⟨sound_previewSupervisor, ?_, ?_, rfl⟩
  · intro key proof found
    cases found
  intro key claimId url port found
  cases found

variable {tracked : Tracked}

theorem Consistent.stop (consistent : Consistent urls tracked) (call : StopCall) :
    Consistent urls { tracked with host := (stopPreviewProcess urls tracked.host call).1 } := by
  have effect := stopPreviewProcess_spec urls consistent.sound call
  generalize stopPreviewProcess urls tracked.host call = reply at effect ⊢
  cases effect with
  | kept later result sound proofs ports =>
    refine ⟨sound, ?_, ?_, consistent.strays⟩
    · intro key proof found
      exact consistent.proofs key proof (proofs ▸ found)
    intro key claimId url port found held
    dsimp only at held ⊢
    rw [ports] at held
    rw [proofs]
    exact consistent.owned key claimId url port found held
  | closed later sound proofs others cleared =>
    refine ⟨sound, ?_, ?_, consistent.strays⟩
    · intro key proof found
      dsimp only at found
      rw [proofs, lookup_erase] at found
      split at found
      · cases found
      exact consistent.proofs key proof found
    intro key claimId url port found held
    dsimp only at held ⊢
    by_cases same : previewKey call.workspaceId call.taskId = key
    · rw [← same, cleared] at held
      cases held
    rw [others key same] at held
    rw [proofs, lookup_erase, if_neg same]
    exact consistent.owned key claimId url port found held

/-- What a start of a preview leaves in the host. -/
theorem startAgentWorkItemPreview_spec {call : StartCall}
    {reply : StartReply} (returned : startAgentWorkItemPreview urls host call = some reply) :
    (reply.host = host ∧ reply.strays = [] ∧ ∀ latest, recordStart latest reply.result = latest) ∨
      ∃ candidate outcome, call.loaded = .ok candidate ∧ call.matchesCheckTarget = .ok true ∧
        startPreviewProcess host (previewKey candidate.workspaceId call.taskId)
          candidate.candidateTarget call.previewInstanceId call.start = some outcome ∧
        reply.host = outcome.host ∧ reply.strays = outcome.strays ∧
        ∀ latest, recordStart latest reply.result =
          match outcome.result with
          | .error _ => latest
          | .ok url =>
            latest.insert (previewKey candidate.workspaceId call.taskId)
              (call.previewInstanceId, previewAddress urls candidate.trustedSource url) := by
  unfold startAgentWorkItemPreview at returned
  split at returned
  · cases returned
    exact .inl ⟨rfl, rfl, fun _ => rfl⟩
  rename_i candidate loaded
  split at returned
  · cases returned
    exact .inl ⟨rfl, rfl, fun _ => rfl⟩
  dsimp only at returned
  split at returned
  · cases returned
    exact .inl ⟨rfl, rfl, fun _ => rfl⟩
  · cases returned
    exact .inl ⟨rfl, rfl, fun _ => rfl⟩
  rename_i unchanged
  split at returned
  · cases returned
  · rename_i started
    cases returned
    exact .inr ⟨candidate, _, loaded, unchanged, started, rfl, rfl, fun _ => rfl⟩
  rename_i started
  cases returned
  exact .inr ⟨candidate, _, loaded, unchanged, started, rfl, rfl, fun _ => rfl⟩

theorem Consistent.claimed (consistent : Consistent urls tracked) {later : PreviewHost}
    {address : String} {port : UInt16} {proof : PreviewProof} (sound : Sound later.runtime)
    (proofs : ∀ other, later.proofs[other]? =
      if key = other then some proof else tracked.host.proofs[other]?)
    (own : proof.claimId = claimId) (others : ∀ other, key ≠ other →
      portAt later.runtime other = portAt tracked.host.runtime other)
    (held : portAt later.runtime key = some port) (keepsPort : urls.port address = some port) :
    Consistent urls
      { host := later, latest := tracked.latest.insert key (claimId, address),
        strays := tracked.strays } := by
  refine ⟨sound, ?_, ?_, consistent.strays⟩
  · intro other found inside
    dsimp only at inside ⊢
    rw [proofs] at inside
    rw [lookup_insert]
    split at inside
    · rename_i same
      cases inside
      rw [if_pos same, own]
      exact ⟨address, rfl⟩
    rename_i different
    rw [if_neg different]
    exact consistent.proofs other found inside
  intro other claim url at' latest port'
  dsimp only at latest port' ⊢
  rw [lookup_insert] at latest
  rw [proofs]
  split at latest
  · rename_i same
    cases latest
    rw [← same, held, Option.some.injEq] at port'
    subst port'
    rw [if_pos same]
    exact ⟨keepsPort, proof, rfl, own⟩
  rename_i different
  rw [others other different] at port'
  rw [if_neg different]
  exact consistent.owned other claim url at' latest port'

theorem Consistent.start {later : Tracked} (consistent : Consistent urls tracked) {call : StartCall}
    (meets : StartMeets urls tracked call) (returned : step urls tracked (.start call) = some later) :
    Consistent urls later := by
  obtain ⟨reply, started, rfl⟩ := map_eq_some_iff.1 returned
  rcases startAgentWorkItemPreview_spec started with
    ⟨host, strays, latest⟩ | ⟨candidate, outcome, loaded, unchanged, process, host, strays, latest⟩
  · rw [host, strays, latest, append_nil]
    exact consistent
  obtain ⟨keepsPort, rollsBack, cleansUp⟩ := meets candidate loaded unchanged
  rw [host, strays, latest]
  have effect := startPreviewProcess_spec consistent.sound process
  generalize previewKey candidate.workspaceId call.taskId = key at cleansUp effect ⊢
  cases effect with
  | failed detail result sound proofs others cleared noStrays =>
    rw [noStrays rollsBack, append_nil, result]
    refine ⟨sound, ?_, ?_, consistent.strays⟩
    · intro other proof found
      dsimp only at found ⊢
      rw [proofs, lookup_erase] at found
      split at found
      · cases found
      exact consistent.proofs other proof found
    intro other claimId url port found held
    dsimp only at found held ⊢
    by_cases same : key = other
    · have known : tracked.latest[key]? ≠ none := by
        rw [same, found]
        exact some_ne_none _
      rw [← same, cleared (cleansUp known)] at held
      cases held
    rw [others other same] at held
    rw [proofs, lookup_erase, if_neg same]
    exact consistent.owned other claimId url port found held
  | reused port result sound proofs proved ports held noStrays =>
    rw [noStrays, append_nil, result]
    obtain ⟨proof, found⟩ := ne_none_iff_exists'.1 proved
    obtain ⟨_, _, _, _, _, range, _⟩ := registered_of_portAt consistent.sound held
    have owned : ({ proof with claimId := call.previewInstanceId } : PreviewProof).claimId =
      call.previewInstanceId := rfl
    refine consistent.claimed sound ?_
      owned (fun other _ => ports other) ((ports key).trans held) (keepsPort port range)
    intro other
    rw [proofs, Std.ExtTreeMap.getElem?_modify]
    simp only [Std.LawfulEqCmp.compare_eq_iff_eq]
    split
    · rename_i same
      rw [found]
      rfl
    rfl
  | launched port proof result sound proofs claimed others held noStrays =>
    rw [noStrays, append_nil, result]
    obtain ⟨_, _, _, _, _, range, _⟩ := registered_of_portAt sound held
    refine consistent.claimed sound ?_ claimed others held (keepsPort port range)
    intro other
    rw [proofs, lookup_insert, lookup_erase]
    split
    · rfl
    rfl

theorem consistent_of_run (run : Run urls (Meets urls) tracked) : Consistent urls tracked := by
  induction run with
  | initial => exact consistent_initial urls
  | call before meets returned ih =>
    rename_i call
    cases call with
    | start call => exact ih.start meets returned
    | stop call =>
      cases returned
      exact ih.stop call

def calmObservations : ℕ → Observation :=
  fun _ => { now := 0, tryWait := .running, accepts := fun _ => true }

def cleanTerminations : ℕ → Termination :=
  fun _ => { kill := .killed, waits := true, now := 0 }

theorem observeServices_calm (service : ManagedService) :
    (observeServices [service] calmObservations).2 = .ok () := by
  rw [observeServices_single]
  rfl

def refusedStart : PreviewStart where
  prepared := .error "This task has no WTS UI directory. Open its workspace to inspect the result."
  previewBootstrap := ""
  failedPreparation := cleanTerminations
  observations := calmObservations
  existingReply := none
  stopBefore := cleanTerminations
  probeId := ""
  probeSecret := ""
  portDraw := 0
  run :=
    { canonicalDirectory := some
      workspaceDiskBytes := fun _ => none
      lockPoisoned := false
      processRssKib := fun _ => none
      binds := fun _ _ => true
      now := 0
      services := fun _ =>
        { cancelled := false, logDirectoryError := none, spawn := none, now := 0, polls := [] }
      terminations := cleanTerminations }
  startedReply := none
  stopAfter := cleanTerminations
  processIds := by
    intro n child spawned
    cases spawned

def refusedCall (workspaceId taskId : Uuid) : StartCall where
  workSetId := 0
  taskId := taskId
  previewInstanceId := 0
  loaded := .ok
    { workspaceId := workspaceId
      repositoryId := "repository"
      afterCheckpointId := some 0
      candidateSource := .workItem "Task"
      candidateTarget := { absolute := true, components := ["candidate"] }
      trustedSource := .workItem "Task" }
  matchesCheckTarget := .ok true
  start := refusedStart

theorem recoverable_of_sound (sound : Sound tracked.host.runtime) : Recoverable urls tracked := by
  intro workspaceId taskId registered
  obtain ⟨stack, found⟩ := ne_none_iff_exists'.1 registered
  obtain ⟨service, services, _, signalled⟩ := sound.single _ stack found
  refine ⟨refusedCall workspaceId taskId, _, rfl, rfl, ?_⟩
  obtain ⟨stopSound, _, stops⟩ := stopStack_spec sound (previewKey workspaceId taskId)
    cleanTerminations
  refine (portAt_eq_none_iff stopSound).1 ((stops stack found).1 ?_).1
  rw [services]
  exact stopServices_complete signalled (by decide) rfl

theorem Consistent.stopsNothing
    (consistent : Consistent urls tracked) (call : StopCall) : StopsNothing urls tracked call := by
  intro other
  refine stopPreviewProcess_other ?_
  intro proof found same
  obtain ⟨url, latest⟩ := consistent.proofs _ proof found
  exact other url (same ▸ latest)

theorem Consistent.closes
    (consistent : Consistent urls tracked) {call : StopCall} (meets : StopMeets tracked call) :
    Closes urls tracked call := by
  intro latest
  cases held : portAt tracked.host.runtime (previewKey call.workspaceId call.taskId) with
  | none =>
    obtain ⟨sound, free⟩ := stopPreviewProcess_free urls consistent.sound held
    generalize stopPreviewProcess urls tracked.host call = reply at sound free ⊢
    obtain ⟨later, result⟩ := reply
    cases result with
    | ok finished => exact (portAt_eq_none_iff sound).1 free
    | error error =>
      refine ⟨call.observations, call.terminations, ?_⟩
      obtain ⟨laterSound, laterFree⟩ := stopPreviewProcess_free urls sound free
      exact (portAt_eq_none_iff laterSound).1 laterFree
  | some port =>
    obtain ⟨address, proof, proved, own⟩ := consistent.owned _ _ _ port latest held
    obtain ⟨later, sound, ⟨closed, cleared⟩ | ⟨⟨error, failed⟩, _, proofs, ports⟩⟩ :=
      stopPreviewProcess_own consistent.sound proved own held address (meets latest)
    · rw [closed]
      exact (portAt_eq_none_iff sound).1 cleared
    rw [failed]
    refine ⟨calmObservations, cleanTerminations, ?_⟩
    have still := (ports _).trans held
    obtain ⟨_, service, registered, services, _⟩ := registered_of_portAt sound still
    -- the proof and the port are those from before, so the same stop reaches the cleanup again
    obtain ⟨final, finalSound, ⟨closed, cleared⟩ | ⟨_, incomplete, _⟩⟩ :=
      @stopPreviewProcess_own _ _ sound { call with
        observations := calmObservations, terminations := cleanTerminations } _ _
        (proofs ▸ proved) own still address (by
          intro stack found
          rw [registered, Option.some.injEq] at found
          rw [← found, services]
          exact observeServices_calm service)
    · rw [closed]
      exact (portAt_eq_none_iff finalSound).1 cleared
    exact absurd ⟨by simp [cleanTerminations], rfl⟩ incomplete

/-- In every run whose starts and stops meet the condition, a stop with another claim does nothing, a
stop with the latest claim closes the preview or can be repeated, a new start can remove what is
registered, no process is left behind, and the number of previews stays within the limit. -/
theorem previews_close (urls : UrlCodec) {tracked : Tracked} (run : Run urls (Meets urls) tracked) :
    (∀ call, StopsNothing urls tracked call) ∧
      (∀ call, Meets urls tracked (.stop call) → Closes urls tracked call) ∧
      Recoverable urls tracked ∧ tracked.strays = [] ∧
      tracked.host.runtime.registry.size ≤ previewLimits.maxStacks := by
  have consistent := consistent_of_run run
  refine ⟨consistent.stopsNothing, fun call meets => consistent.closes meets,
    recoverable_of_sound consistent.sound, consistent.strays, ?_⟩
  rw [← consistent.sound.limits]
  exact consistent.sound.within.stackCount

def codecBelow (bound : ℕ) : UrlCodec where
  join := fun base route => some (base ++ String.ofList (route.toList.drop 1))
  port := fun url =>
    ((List.range bound).find? fun n => n ≠ 80 ∧ previewUrl (UInt16.ofNat n) = url).map UInt16.ofNat

theorem toList_previewUrl (port : UInt16) : (previewUrl port).toList =
    "http://127.0.0.1:".toList ++ (Text.decimal port.toNat).toList ++ "/".toList := by
  unfold previewUrl
  rw [String.toList_append]
  rw [String.toList_append]

theorem previewUrl_injective : Function.Injective previewUrl := by
  intro first second same
  have chars := congrArg String.toList same
  rw [toList_previewUrl] at chars
  rw [toList_previewUrl] at chars
  have digits := append_cancel_left (append_cancel_right chars)
  exact UInt16.toNat_inj.1 (Text.decimal_injective (String.toList_injective digits))

theorem port_previewUrl {bound : ℕ} {port : UInt16} (range : 20000 ≤ port.toNat)
    (inside : port.toNat < bound) : (codecBelow bound).port (previewUrl port) = some port := by
  rw [codecBelow]
  dsimp only
  cases found : (List.range bound).find? fun n =>
      decide (n ≠ 80 ∧ previewUrl (UInt16.ofNat n) = previewUrl port) with
  | none =>
    have missed := find?_eq_none.1 found port.toNat (mem_range.2 inside)
    rw [UInt16.ofNat_toNat, decide_eq_true_eq] at missed
    exact absurd ⟨by omega, rfl⟩ missed
  | some n =>
    have equal := find?_some found
    rw [decide_eq_true_eq] at equal
    rw [map_some, previewUrl_injective equal.2]

def baseUrls : UrlCodec :=
  codecBelow UInt16.size

def servedStart : PreviewStart where
  prepared := .ok
    ({ absolute := true, components := ["candidate", "ui"] },
      { absolute := true, components := ["candidate", "ui", "vite.js"] })
  previewBootstrap := "import(process.argv[1]);"
  failedPreparation := cleanTerminations
  observations := calmObservations
  existingReply := none
  stopBefore := cleanTerminations
  probeId := "probe"
  probeSecret := "secret"
  portDraw := 0
  run :=
    { canonicalDirectory := some
      workspaceDiskBytes := fun _ => some 0
      lockPoisoned := false
      processRssKib := fun _ => none
      binds := fun _ _ => true
      now := 0
      services := fun _ =>
        { cancelled := false
          logDirectoryError := none
          spawn := some { id := 100 }
          now := 0
          polls :=
            [{ cancelled := false, now := 0, tryWait := .running, elapsed := 0, elapsedLater := 0,
               accepts := fun _ => true }] }
      terminations := cleanTerminations }
  startedReply := some "HTTP/1.1 200 OK\r\n\r\nsecret"
  stopAfter := cleanTerminations
  processIds := by
    intro n child spawned
    cases spawned
    decide

def servedCall : StartCall :=
  { refusedCall 1 2 with previewInstanceId := 7, start := servedStart }

def failedCall : StartCall :=
  { refusedCall 1 2 with
    previewInstanceId := 8
    start := { refusedStart with
      failedPreparation := fun _ => { kill := .failed, waits := false, now := 0 } } }

def firstStop : StopCall where
  workspaceId := 1
  taskId := 2
  expectedUrl := previewUrl 20000
  claimId := 7
  observations := calmObservations
  terminations := cleanTerminations

def servedRun : Option Tracked :=
  step baseUrls Tracked.initial (.start servedCall)

theorem servedRun_isSome : servedRun.isSome = true := by
  decide +kernel

def served : Tracked :=
  servedRun.get servedRun_isSome

theorem run_served : Run baseUrls (Meets baseUrls) served := by
  refine @Run.call _ _ _ _ (.start servedCall) .initial ?_ (some_get servedRun_isSome).symm
  intro candidate loaded _
  cases loaded
  refine ⟨?_, ?_, ?_⟩
  · intro port range
    exact port_previewUrl range port.toNat_lt
  · intro ui vite endpoint service error prepared turn
    cases prepared
    cases turn
  intro known
  exact absurd rfl known

/-- The theorem at a host with one running preview. -/
theorem previews_close_served : (∀ call, StopsNothing baseUrls served call) ∧
      (∀ call, Meets baseUrls served (.stop call) → Closes baseUrls served call) ∧
      Recoverable baseUrls served ∧ served.strays = [] ∧
      served.host.runtime.registry.size ≤ previewLimits.maxStacks :=
  previews_close baseUrls run_served

theorem droppedProof_isSome : (step baseUrls served (.start failedCall)).isSome = true := by
  decide +kernel

def droppedProof : Tracked :=
  (step baseUrls served (.start failedCall)).get droppedProof_isSome

/-- The failed start drops the proof of a process that still runs, so the stop with the latest claim
and its address reports success and leaves the preview. -/
theorem dropped_proof_keeps_preview :
    ¬ ∀ tracked : Tracked, Run baseUrls (fun _ _ => True) tracked →
      (∀ call, StopsNothing baseUrls tracked call) ∧ (∀ call, Closes baseUrls tracked call) ∧
        Recoverable baseUrls tracked ∧ tracked.strays = [] ∧
        tracked.host.runtime.registry.size ≤ previewLimits.maxStacks := by
  intro claim
  have run : Run baseUrls (fun _ _ => True) droppedProof :=
    .call (.call .initial trivial (some_get servedRun_isSome).symm) trivial
      (some_get droppedProof_isSome).symm
  have closes := (claim _ run).2.1 firstStop
  have latest : droppedProof.latest[previewKey 1 2]? = some (7, previewUrl 20000) := by
    decide +kernel
  have reply : (stopPreviewProcess baseUrls droppedProof.host firstStop).2 = .ok () := by
    decide +kernel
  have remains : (stopPreviewProcess baseUrls droppedProof.host
      firstStop).1.runtime.registry[previewKey 1 2]? ≠ none := by
    decide +kernel
  have closed := closes latest
  generalize stopPreviewProcess baseUrls droppedProof.host firstStop = outcome at *
  obtain ⟨later, result⟩ := outcome
  dsimp only at reply
  subst reply
  exact remains closed

end Wts.Previews
