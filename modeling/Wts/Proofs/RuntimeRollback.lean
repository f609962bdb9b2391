/-
Module: Wts.Proofs.RuntimeRollback
Purpose: What a failed start leaves behind.
Trusted boundary: none
Main exports: start_leaves_nothing_iff
-/
import Wts.App.Runtime

namespace Wts.Runtime

open List

@[simp] theorem stopService_child (termination : Termination) (service : ManagedService) :
    (stopService termination service).1.child = service.child := by
  unfold stopService
  split <;> rfl

@[simp] theorem stopService_endpoint (termination : Termination) (service : ManagedService) :
    (stopService termination service).1.endpoint = service.endpoint := by
  unfold stopService
  split <;> rfl

theorem stopService_reaped {termination : Termination} {service : ManagedService}
    (complete : (stopService termination service).2 = true) :
    (stopService termination service).1.reaped = true := by
  unfold stopService at complete ⊢
  split
  · rfl
  rename_i failed
  rw [if_neg failed] at complete
  cases complete

@[simp] theorem stopServices_children (terminations : ℕ → Termination)
    (services : List ManagedService) :
    (stopServices terminations services).1.map (·.child) = services.map (·.child) := by
  induction services with
  | nil => rfl
  | cons service rest ih => simp [stopServices, ih]

@[simp] theorem stopServices_endpoints (terminations : ℕ → Termination)
    (services : List ManagedService) :
    (stopServices terminations services).1.map (·.endpoint) = services.map (·.endpoint) := by
  induction services with
  | nil => rfl
  | cons service rest ih => simp [stopServices, ih]

theorem stopServices_reaped {terminations : ℕ → Termination} {services : List ManagedService}
    (complete : (stopServices terminations services).2 = true) :
    ∀ service ∈ (stopServices terminations services).1, service.reaped = true := by
  induction services with
  | nil =>
    intro service member
    cases member
  | cons service rest ih =>
    simp only [stopServices, Bool.and_eq_true] at complete ⊢
    intro other member
    rcases mem_cons.1 member with rfl | later
    · exact stopService_reaped complete.2
    exact ih complete.1 other later

/-- The head of the loop body returns: the flag is set, or the command cannot be constructed. -/
def Interrupted (run : ServiceRun) : Prop :=
  run.cancelled = true ∨ run.logDirectoryError ≠ none

/-- The service is spawned and becomes ready. -/
def Starts (limits : RuntimeLimits) (run : ServiceRun) (reserved : ReservedService) : Prop :=
  ¬ Interrupted run ∧
    ∃ child service, run.spawn = some child ∧
      waitUntilReady (spawnedService reserved child run.now)
        (min reserved.request.startupTimeout limits.maxStartupTimeout) limits.healthPollInterval
        run.polls = some (service, .ok ())

theorem startService_cases (limits : RuntimeLimits) (run : ServiceRun) (reserved : ReservedService) :
    (Interrupted run ∧ ∃ error, error ≠ .cleanupFailed ∧
        startService limits run reserved = some (.interrupted error)) ∨
      (¬ Interrupted run ∧ (∃ service, startService limits run reserved = some (.ready service)) ∧
        Starts limits run reserved) ∨ (¬ Interrupted run ∧ ¬ Starts limits run reserved ∧
        (startService limits run reserved = none ∨
          (∃ error, startService limits run reserved = some (.spawnFailed error)) ∨ ∃ service error,
              startService limits run reserved = some (.notReady service error))) := by
  unfold startService
  by_cases cancelled : run.cancelled = true
  · left
    exact ⟨.inl cancelled, .cancelled, by decide, by rw [if_pos cancelled]⟩
  rw [if_neg cancelled]
  cases log : run.logDirectoryError with
  | some error =>
    left
    refine ⟨.inr (by rw [log]; simp), .processStartFailed error, by simp, rfl⟩
  | none =>
    have proceeds : ¬ Interrupted run := by
      rintro (set | failed)
      · exact cancelled set
      exact failed log
    right
    cases spawned : run.spawn with
    | none =>
      right
      refine ⟨proceeds, ?_, .inr (.inl ⟨_, rfl⟩)⟩
      rintro ⟨_, child, service, started, _⟩
      rw [spawned] at started
      cases started
    | some child =>
      cases waited : waitUntilReady (spawnedService reserved child run.now)
          (min reserved.request.startupTimeout limits.maxStartupTimeout)
          limits.healthPollInterval run.polls with
      | none =>
        right
        refine ⟨proceeds, ?_, .inl (by simp only [waited])⟩
        rintro ⟨_, child', service, started, ready⟩
        rw [spawned, Option.some.injEq] at started
        subst started
        rw [waited] at ready
        cases ready
      | some reply =>
        obtain ⟨service, result⟩ := reply
        cases result with
        | ok finished =>
          left
          refine ⟨proceeds, ⟨service, by simp only [waited]⟩, proceeds, child, service,
            spawned, waited⟩
        | error error =>
          right
          refine ⟨proceeds, ?_, .inr (.inr ⟨service, error, by simp only [waited]⟩)⟩
          rintro ⟨_, child', service', started, ready⟩
          rw [spawned, Option.some.injEq] at started
          subst started
          rw [waited] at ready
          cases ready

/-! ### The start loop -/

/-- An error other than failed cleanup means that everything spawned was stopped and reaped. -/
def LoopEnd.Clean (loopEnd : LoopEnd) : Prop :=
  ∀ error, loopEnd.result = .error error → error ≠ .cleanupFailed →
    loopEnd.stopped.map (·.child) = loopEnd.spawned ∧
      ∀ service ∈ loopEnd.stopped, service.reaped = true

theorem exitStopping_clean (terminations : ℕ → Termination) (services : List ManagedService)
    (error : RuntimeError) : (exitStopping terminations services error).Clean := by
  intro error' failed other
  have complete : (stopServices terminations services).2 = true := by
    by_contra incomplete
    simp only [exitStopping, if_neg incomplete, Except.error.injEq] at failed
    exact other failed.symm
  exact ⟨stopServices_children _ _, stopServices_reaped complete⟩

/-- The services before a position start and the position is interrupted with processes running. -/
def Leaks (limits : RuntimeLimits) (run : StartRun) (reserved : List ReservedService)
    (started : ℕ) : Prop :=
  ∃ (k : ℕ) (inside : k < reserved.length), 0 < started + k ∧
    (∀ (j : ℕ) (before : j < k),
      Starts limits (run.services (started + j)) (reserved.get ⟨j, before.trans inside⟩)) ∧
    Interrupted (run.services (started + k))

theorem not_leaks_nil (limits : RuntimeLimits) (run : StartRun) (started : ℕ) :
    ¬ Leaks limits run [] started := by
  rintro ⟨k, inside, _⟩
  cases inside

variable {first : ReservedService} {limits : RuntimeLimits} {rest : List ReservedService}
  {run : StartRun} {started : ℕ}

theorem leaks_of_interrupted (interrupted : Interrupted (run.services started)) :
    Leaks limits run (first :: rest) started ↔ 0 < started := by
  constructor
  · rintro ⟨k, inside, running, starts, _⟩
    cases k with
    | zero => exact running
    | succ k => exact absurd interrupted (starts 0 (Nat.succ_pos k)).1
  intro running
  exact ⟨0, Nat.succ_pos _, running, fun j before => absurd before (Nat.not_lt_zero j), interrupted⟩

theorem leaks_of_starts (starts : Starts limits (run.services started) first) :
    Leaks limits run (first :: rest) started ↔ Leaks limits run rest (started + 1) := by
  have shift : ∀ j, started + (j + 1) = started + 1 + j := by
    intro j
    omega
  constructor
  · rintro ⟨k, inside, _, others, interrupted⟩
    cases k with
    | zero => exact absurd interrupted starts.1
    | succ k =>
      rw [shift] at interrupted
      refine ⟨k, Nat.lt_of_succ_lt_succ inside, by omega, fun j before => ?_, interrupted⟩
      have other := others (j + 1) (by omega)
      rwa [shift] at other
  rintro ⟨k, inside, _, others, interrupted⟩
  rw [← shift] at interrupted
  refine ⟨k + 1, Nat.succ_lt_succ inside, by omega, fun j before => ?_, interrupted⟩
  cases j with
  | zero => exact starts
  | succ j =>
    have other := others j (by omega)
    rwa [← shift] at other

theorem not_leaks_of_stops (proceeds : ¬ Interrupted (run.services started))
    (fails : ¬ Starts limits (run.services started) first) :
    ¬ Leaks limits run (first :: rest) started := by
  rintro ⟨k, inside, _, others, interrupted⟩
  cases k with
  | zero => exact proceeds interrupted
  | succ k => exact fails (others 0 (Nat.succ_pos k))

theorem startServices_clean_iff (limits : RuntimeLimits) (run : StartRun)
    (reserved : List ReservedService) (services : List ManagedService) :
    (∀ loopEnd, startServices limits run reserved services = some loopEnd → loopEnd.Clean) ↔
      ¬ Leaks limits run reserved services.length := by
  induction reserved generalizing services with
  | nil =>
    refine iff_of_true ?_ (not_leaks_nil _ _ _)
    intro loopEnd ended error failed
    simp only [startServices, Option.some.injEq] at ended
    rw [← ended] at failed
    cases failed
  | cons first rest ih =>
    rw [startServices]
    rcases startService_cases limits (run.services services.length) first with
      ⟨interrupted, error, other, turn⟩ | ⟨_, ⟨service, turn⟩, starts⟩ | ⟨proceeds, fails, turn⟩
    · rw [turn, leaks_of_interrupted interrupted]
      constructor
      · intro clean running
        have stopped := (clean _ rfl error rfl other).1
        simp only [map_nil] at stopped
        have empty := map_eq_nil_iff.1 stopped.symm
        rw [empty] at running
        cases running
      intro idle loopEnd ended error' failed _
      obtain rfl : services = [] := length_eq_zero_iff.1 (by omega)
      cases ended
      exact ⟨rfl, fun service member => absurd member not_mem_nil⟩
    · rw [turn, leaks_of_starts starts]
      have later := ih (services ++ [service])
      rwa [length_append, length_singleton] at later
    refine iff_of_true ?_ (not_leaks_of_stops proceeds fails)
    intro loopEnd ended
    rcases turn with turn | ⟨error, turn⟩ | ⟨service, error, turn⟩
    · rw [turn] at ended
      cases ended
    · rw [turn] at ended
      cases ended
      exact exitStopping_clean _ _ _
    rw [turn] at ended
    cases ended
    exact exitStopping_clean _ _ _

/-- After an error other than failed cleanup, every process that the call spawned has been passed to
`stop_services` and reaped, and the supervisor is what it was before. -/
def LeavesNothing (before : RuntimeSupervisor) (outcome : StartOutcome) : Prop :=
  ∀ error, outcome.result = .error error → error ≠ .cleanupFailed →
    outcome.stopped.map (·.child) = outcome.spawned ∧
      (∀ service ∈ outcome.stopped, service.reaped = true) ∧ outcome.supervisor = before

/-- The stack is admitted, some services start, and at a later service the flag is set at the head
of the loop or the command cannot be constructed. -/
def Abandons (supervisor : RuntimeSupervisor) (request : RuntimeStackRequest) (run : StartRun) :
    Prop :=
  ∃ prepared reserved, admitStack supervisor request run = .ok (prepared, reserved) ∧
    ∃ (k : ℕ) (inside : k < reserved.length), 0 < k ∧
      (∀ (j : ℕ) (before : j < k),
        Starts supervisor.limits (run.services j) (reserved.get ⟨j, before.trans inside⟩)) ∧
      Interrupted (run.services k)

theorem leaks_zero_iff {reserved : List ReservedService} : Leaks limits run reserved 0 ↔
      ∃ (k : ℕ) (inside : k < reserved.length), 0 < k ∧ (∀ (j : ℕ) (before : j < k),
          Starts limits (run.services j) (reserved.get ⟨j, before.trans inside⟩)) ∧
        Interrupted (run.services k) := by
  simp only [Leaks, Nat.zero_add]

/-- A start leaves nothing behind exactly when it is not interrupted after its first service. -/
theorem start_leaves_nothing_iff (supervisor : RuntimeSupervisor) (request : RuntimeStackRequest)
    (run : StartRun) : (∀ outcome, startStackCancellable supervisor request run = some outcome →
      LeavesNothing supervisor outcome) ↔ ¬ Abandons supervisor request run := by
  rw [startStackCancellable, Abandons]
  cases admitted : admitStack supervisor request run with
  | error error =>
    refine iff_of_true ?_ ?_
    · intro outcome returned
      cases returned
      exact fun _ _ _ => ⟨rfl, fun service member => absurd member List.not_mem_nil, rfl⟩
    · rintro ⟨_, _, impossible, _⟩
      cases impossible
  | ok admission =>
    obtain ⟨prepared, reserved⟩ := admission
    have abandons : (∃ prepared' reserved',
        (Except.ok (prepared, reserved) : Except RuntimeError _) = .ok (prepared', reserved') ∧
          ∃ (k : ℕ) (inside : k < reserved'.length), 0 < k ∧
            (∀ (j : ℕ) (before : j < k),
              Starts supervisor.limits (run.services j) (reserved'.get ⟨j, before.trans inside⟩)) ∧
            Interrupted (run.services k)) ↔ Leaks supervisor.limits run reserved 0 := by
      rw [leaks_zero_iff]
      constructor
      · rintro ⟨_, _, same, leaks⟩
        cases same
        exact leaks
      · exact fun leaks => ⟨prepared, reserved, rfl, leaks⟩
    have loop := startServices_clean_iff supervisor.limits run reserved []
    rw [abandons, ← List.length_nil (α := ManagedService), ← loop]
    dsimp only
    cases ended : startServices supervisor.limits run reserved [] with
    | none => simp
    | some loopEnd =>
      obtain ⟨result, spawned, stopped⟩ := loopEnd
      cases result with
      | error error =>
        simp only [Option.some.injEq, forall_eq']
        constructor
        · intro leaves error' failed other
          cases failed
          have left := leaves error rfl other
          exact ⟨left.1, left.2.1⟩
        · intro clean error' failed other
          cases failed
          have left := clean error rfl other
          exact ⟨left.1, left.2, rfl⟩
      | ok services =>
        simp only [Option.some.injEq, forall_eq']
        refine iff_of_true ?_ ?_
        · intro error failed
          cases failed
        · intro error failed
          cases failed

def plainService (id : String) (preferredPort : UInt16) : RuntimeServiceRequest where
  id := id
  workingDirectory := { absolute := true, components := ["workspace"] }
  executable := "server"
  args := []
  environment := []
  preferredPort := preferredPort
  dependsOn := []
  healthCheck := .process
  startupTimeout := seconds 5

def plainRequest (services : List RuntimeServiceRequest) : RuntimeStackRequest where
  workspaceId := 1
  stackId := "stack"
  workspaceRoot := { absolute := true, components := ["workspace"] }
  services := services

def plainLimits : RuntimeLimits where
  maxStacks := 4
  maxServicesPerStack := 4
  maxServicesTotal := 8
  maxStartupTimeout := seconds 5
  healthPollInterval := millis 10
  maxWorkspaceDiskBytes := 128 * 1024 * 1024

def cancelledFrom (first : ℕ) : StartRun where
  canonicalDirectory := some
  workspaceDiskBytes := fun _ => some 0
  lockPoisoned := false
  processRssKib := fun _ => none
  binds := fun _ _ => true
  now := 0
  services := fun n =>
    { cancelled := first ≤ n
      logDirectoryError := none
      spawn := some { id := 100 + UInt32.ofNat n }
      now := 0
      polls :=
        [{ cancelled := first ≤ n, now := 0, tryWait := .running, elapsed := 0, elapsedLater := 0,
           accepts := fun _ => true }] }
  terminations := fun _ => { kill := .killed, waits := true, now := 0 }

/-- The flag is set between the two services of a stack: the first process stays. -/
theorem start_leaves_nothing_counterexample :
    ¬ ∀ (supervisor : RuntimeSupervisor) (request : RuntimeStackRequest) (run : StartRun),
      ∀ outcome, startStackCancellable supervisor request run = some outcome →
        LeavesNothing supervisor outcome := by
  intro claim
  have returned : (startStackCancellable { limits := plainLimits, registry := ∅ }
      (plainRequest [plainService "api" 41000, plainService "web" 42000]) (cancelledFrom 1)).map
        (fun outcome => (outcome.result, outcome.spawned, outcome.stopped)) =
      some (.error .cancelled, [{ id := 100 }], []) := by
    decide +kernel
  obtain ⟨outcome, call, fields⟩ := Option.map_eq_some_iff.1 returned
  simp only [Prod.mk.injEq] at fields
  have stopped := (claim _ _ _ outcome call .cancelled fields.1 (by decide)).1
  rw [fields.2.1, fields.2.2] at stopped
  cases stopped

end Wts.Runtime
