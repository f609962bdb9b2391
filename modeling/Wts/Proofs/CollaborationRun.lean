/-
Module: Wts.Proofs.CollaborationRun
Purpose: Where every task of an accepted plan is during a run: with a result, in the hands of a
  worker, ready in the current wave, waiting in the current phase, or in a later phase.
Trusted boundary: none
Main exports: Account
-/
import Wts.Proofs.CollaborationPlan

namespace Wts.Collaboration

open EntryMap List
open Std (ExtTreeMap)

theorem scopeTasks_addToScope (groups : ScopeGroups) (task : PreparedTask) :
    (scopeTasks (addToScope groups task)).Perm (task :: scopeTasks groups) :=
  Grouping.flatMap_addTo id rfl (fun tasks last => perm_append_singleton last tasks) groups task

theorem phaseGroups_flatten_perm (tasks : List PreparedTask) :
    (phaseGroups tasks).flatten.Perm tasks := by
  have collected : ((phased tasks).toList.flatMap fun entry => scopeTasks entry.2).Perm tasks :=
    Grouping.flatMap_collect scopeTasks rfl scopeTasks_addToScope tasks
  refine List.Perm.trans ?_ collected
  rw [phaseGroups, ← flatMap_def]
  apply List.Perm.flatMap_left
  intro entry _
  exact perm_insertionSort _ _

theorem phase_of_mem_group {tasks : List PreparedTask} {entry : ℕ × ScopeGroups}
    (member : entry ∈ (phased tasks).toList) {task : PreparedTask}
    (inside : task ∈ (scopeTasks entry.2).insertionSort fun left right =>
      left.taskId ≤ right.taskId) : task.phase = entry.1 := by
  rw [mem_insertionSort] at inside
  exact Grouping.key_of_mem_collect scopeTasks rfl scopeTasks_addToScope tasks
    (MapRows.mem_toList.1 member) task inside

theorem phaseGroups_ordered (tasks : List PreparedTask) :
    (phaseGroups tasks).Pairwise fun group later =>
      ∀ a ∈ group, ∀ b ∈ later, a.phase < b.phase := by
  rw [phaseGroups, pairwise_map]
  have keys := (phased tasks).ordered_keys_toList
  refine keys.imp_of_mem fun {first second} inFirst inSecond less a ha b hb => ?_
  rw [phase_of_mem_group inFirst ha, phase_of_mem_group inSecond hb]
  exact Nat.compare_eq_lt.1 less

theorem phaseGroups_uniform (tasks : List PreparedTask) :
    ∀ group ∈ phaseGroups tasks, ∀ a ∈ group, ∀ b ∈ group, a.phase = b.phase := by
  intro group member a ha b hb
  obtain ⟨entry, inMap, rfl⟩ := mem_map.1 member
  rw [phase_of_mem_group inMap ha, phase_of_mem_group inMap hb]

@[simp] theorem executeTask_taskId (limits : CollaborationLimits) (task : PreparedTask)
    (run : TaskRun) : (executeTask limits task run).taskId = task.taskId := by
  unfold executeTask
  dsimp only
  repeat' split
  all_goals rfl

@[simp] theorem executeTask_phase (limits : CollaborationLimits) (task : PreparedTask)
    (run : TaskRun) : (executeTask limits task run).phase = task.phase := by
  unfold executeTask
  dsimp only
  repeat' split
  all_goals rfl

theorem stoppedState_ne_blocked (reason : CollaborationStopReason) :
    stoppedState reason ≠ .dependencyBlocked := by
  cases reason <;> decide

theorem executeTask_ne_blocked (limits : CollaborationLimits) (task : PreparedTask)
    (run : TaskRun) : (executeTask limits task run).state ≠ .dependencyBlocked := by
  unfold executeTask
  dsimp only
  split
  · exact stoppedState_ne_blocked _
  split
  · exact stoppedState_ne_blocked _
  split
  · simp [result]
  split
  · simp [result]
  split
  · simp [result]
  · exact stoppedState_ne_blocked _
  · split <;> simp [result]
  split
  · simp [result]
  simp only [result]
  split <;> simp

theorem completedState_append (results more : List CollaborationTaskResult)
    (id : CollaborationTaskId) : completedState (results ++ more) id =
      (completedState more id).or (completedState results id) := by
  rw [completedState, completedStates, map_append, lastValue_append]
  rfl

variable {id : CollaborationTaskId} {results : List CollaborationTaskResult}

theorem mem_of_completedState
    {state : CollaborationTaskState} (found : completedState results id = some state) :
    ∃ task ∈ results, task.taskId = id ∧ task.state = state := by
  obtain ⟨task, member, equal⟩ := mem_map.1 (mem_of_lastValue_eq_some found)
  simp only [Prod.mk.injEq] at equal
  exact ⟨task, member, equal⟩

theorem completedState_of_mem
    (distinct : (results.map (·.taskId)).Nodup) {task : CollaborationTaskResult}
    (member : task ∈ results) : completedState results task.taskId = some task.state := by
  apply lastValue_eq_some_of_mem
  · rwa [completedStates, map_map]
  exact mem_map_of_mem (f := fun task : CollaborationTaskResult => (task.taskId, task.state)) member

theorem completedState_isSome
    (member : id ∈ results.map (·.taskId)) : (completedState results id).isSome = true := by
  cases found : completedState results id with
  | some state => rfl
  | none =>
    induction results with
    | nil => cases member
    | cons task rest ih =>
      have split := completedState_append [task] rest id
      rw [singleton_append, found, eq_comm, Option.or_eq_none_iff] at split
      rcases mem_cons.1 member with rfl | inside
      · simp [completedState, completedStates, lastValue] at split
      exact ih inside split.1

variable {more : List CollaborationTaskResult}

theorem completedState_append_of_isSome (distinct : ((results ++ more).map (·.taskId)).Nodup)
    (found : (completedState results id).isSome = true) :
    completedState (results ++ more) id = completedState results id := by
  obtain ⟨state, present⟩ := Option.isSome_iff_exists.1 found
  obtain ⟨task, member, name, _⟩ := mem_of_completedState present
  rw [map_append, nodup_append'] at distinct
  have absent : completedState more id = none := by
    apply lastValue_eq_none
    intro entry inside equal
    obtain ⟨other, also, rfl⟩ := mem_map.1 inside
    dsimp only at equal
    have first : id ∈ results.map (·.taskId) := name ▸ mem_map_of_mem member
    have second : id ∈ more.map (·.taskId) := equal ▸ mem_map_of_mem also
    exact distinct.2.2 first second
  rw [completedState_append, absent, Option.none_or]

def RunState.current (state : RunState) : List PreparedTask :=
  state.working.map (·.task) ++ (state.runnable.drop state.nextTask ++ state.pending)

/-- The account of a run with the given finished tasks. -/
structure Account (tasks : List PreparedTask) (dependencies : Dependencies) (state : RunState)
    (finishedTasks : List PreparedTask) : Prop where
  everyTask : (finishedTasks ++ (state.current ++ state.phases.flatten)).Perm tasks
  results : state.results.map (fun task => (task.taskId, task.phase)) =
    finishedTasks.map fun task => (task.taskId, task.phase)
  ordered : state.phases.Pairwise fun group later =>
    ∀ a ∈ group, ∀ b ∈ later, a.phase < b.phase
  uniform : ∀ group ∈ state.phases, ∀ a ∈ group, ∀ b ∈ group, a.phase = b.phase
  samePhase : ∀ a ∈ state.current, ∀ b ∈ state.current, a.phase = b.phase
  lowerPhase : ∀ a ∈ finishedTasks ++ state.current, ∀ b ∈ state.phases.flatten, a.phase < b.phase
  ready : ∀ a ∈ state.working.map (·.task) ++ state.runnable.drop state.nextTask,
    ∀ parent ∈ parentsOf dependencies a.taskId,
      completedState state.results parent = some .succeeded
  settled : ∀ task ∈ state.results, ∀ parent ∈ parentsOf dependencies task.taskId,
    (completedState state.results parent).isSome = true
  blocked : ∀ task ∈ state.results, task.state = .dependencyBlocked ↔
    ∃ parent ∈ parentsOf dependencies task.taskId,
      completedState state.results parent ≠ some .succeeded
  once : state.invocations.Nodup
  invoked : ∀ id ∈ state.invocations,
    (∃ worker ∈ state.working, worker.invoked = true ∧ worker.task.taskId = id) ∨
      ∃ task ∈ state.results, task.taskId = id ∧ task.state ≠ .dependencyBlocked
  fresh : ∀ worker ∈ state.working, worker.invoked = false →
    worker.task.taskId ∉ state.invocations
  waves : ∀ wave ∈ state.waves, wave ≠ []

theorem account_initial (tasks : List PreparedTask) (dependencies : Dependencies) :
    Account tasks dependencies (initialState tasks) [] where
  everyTask := phaseGroups_flatten_perm tasks
  results := rfl
  ordered := phaseGroups_ordered tasks
  uniform := phaseGroups_uniform tasks
  samePhase := fun _ member => absurd member not_mem_nil
  lowerPhase := fun _ member => absurd member not_mem_nil
  ready := fun _ member => absurd member not_mem_nil
  settled := fun _ member => absurd member not_mem_nil
  blocked := fun _ member => absurd member not_mem_nil
  once := nodup_nil
  invoked := fun _ member => absurd member not_mem_nil
  fresh := fun _ member => absurd member not_mem_nil
  waves := fun _ member => absurd member not_mem_nil

/-! ### What every step preserves -/

section Steps

variable {tasks : List PreparedTask} {dependencies : Dependencies} {limits : CollaborationLimits}
  {state : RunState} {finishedTasks : List PreparedTask}

theorem Account.nodup (account : Account tasks dependencies state finishedTasks)
    (unique : (tasks.map (·.taskId)).Nodup) :
    ((finishedTasks ++ (state.current ++ state.phases.flatten)).map (·.taskId)).Nodup :=
  (account.everyTask.map _).nodup_iff.2 unique

variable {results : List CollaborationTaskResult}

theorem ids_of_same {tasks : List PreparedTask}
    (same : results.map (fun task => (task.taskId, task.phase)) =
      tasks.map fun task => (task.taskId, task.phase)) :
    results.map (·.taskId) = tasks.map (·.taskId) := by
  have ids := congrArg (List.map Prod.fst) same
  rw [map_map, map_map] at ids
  exact ids

theorem Account.resultIds (account : Account tasks dependencies state finishedTasks) :
    state.results.map (·.taskId) = finishedTasks.map (·.taskId) :=
  ids_of_same account.results

theorem Account.nodup_results (account : Account tasks dependencies state finishedTasks)
    (unique : (tasks.map (·.taskId)).Nodup) : (state.results.map (·.taskId)).Nodup := by
  have distinct := account.nodup unique
  rw [map_append, nodup_append'] at distinct
  rw [account.resultIds]
  exact distinct.1

theorem current_of_waveDone (done : state.waveDone) : state.current = state.pending := by
  rw [RunState.current, done.2, drop_eq_nil_of_le done.1]
  rfl

theorem account_nextPhase (account : Account tasks dependencies state finishedTasks)
    {group : List PreparedTask} {rest : List (List PreparedTask)} (done : state.waveDone)
    (noPending : state.pending = []) (more : state.phases = group :: rest) :
    Account tasks dependencies
      { state with phases := rest, pending := group, runnable := [], nextTask := 0 }
      finishedTasks := by
  have idle : state.current = [] := (current_of_waveDone done).trans noPending
  have current : RunState.current
      { state with phases := rest, pending := group, runnable := [], nextTask := 0 } = group := by
    rw [RunState.current, done.2]
    rfl
  have everyTask := account.everyTask
  have lowerPhase := account.lowerPhase
  have ordered := account.ordered
  rw [idle, more, flatten_cons, nil_append] at everyTask
  rw [idle, more, flatten_cons, append_nil] at lowerPhase
  rw [more, pairwise_cons] at ordered
  exact { account with
      everyTask := by
        rw [current]
        exact everyTask
      ordered := ordered.2
      uniform := fun group' member => account.uniform group' (more ▸ mem_cons_of_mem _ member)
      samePhase := by
        rw [current]
        exact account.uniform group (more ▸ mem_cons_self)
      lowerPhase := by
        rw [current]
        intro a ha b hb
        rcases mem_append.1 ha with before | here
        · exact lowerPhase a before b (mem_append_right _ hb)
        obtain ⟨later, inRest, inside⟩ := mem_flatten.1 hb
        exact ordered.1 later inRest a here b inside
      ready := by
        intro a member
        dsimp only at member
        rw [done.2] at member
        cases member }

variable {task : PreparedTask}

theorem account_claim (account : Account tasks dependencies state finishedTasks)
    (run : TaskRun) (next : state.runnable[state.nextTask]? = some task)
    (unique : (tasks.map (·.taskId)).Nodup) : Account tasks dependencies { state with
        nextTask := state.nextTask + 1
        working := state.working ++ [{ task := task, run := run, invoked := false }] }
      finishedTasks := by
  obtain ⟨inside, rfl⟩ := List.getElem?_eq_some_iff.1 next
  have split := drop_eq_getElem_cons inside
  have working : (state.working ++
      [Working.mk state.runnable[state.nextTask] run false]).map (·.task) ++
        state.runnable.drop (state.nextTask + 1) =
      state.working.map (·.task) ++ state.runnable.drop state.nextTask := by
    rw [split, map_append, append_assoc]
    rfl
  have current : RunState.current { state with
        nextTask := state.nextTask + 1
        working := state.working ++
          [{ task := state.runnable[state.nextTask], run := run, invoked := false }] } =
      state.current := by
    rw [RunState.current, RunState.current, ← append_assoc, working, append_assoc]
  -- the claimed task has no result and no worker, so it has not been invoked
  have distinct := account.nodup unique
  have uninvoked : state.runnable[state.nextTask].taskId ∉ state.invocations := by
    intro called
    rw [RunState.current, split, map_append, nodup_append'] at distinct
    rcases account.invoked _ called with ⟨worker, member, _, name⟩ | ⟨task, member, name, _⟩
    · have apart := distinct.2.1
      rw [append_assoc, map_append, nodup_append', map_map] at apart
      have held := mem_map_of_mem
        (f := (fun task : PreparedTask => task.taskId) ∘ Working.task) member
      rw [Function.comp_apply, name] at held
      exact apart.2.2 held mem_cons_self
    have finished := mem_map_of_mem (f := (·.taskId)) member
    rw [account.resultIds, name] at finished
    exact distinct.2.2 finished (mem_map_of_mem
      (mem_append_left _ (mem_append_right _ mem_cons_self)))
  exact { account with
      everyTask := by
        rw [current]
        exact account.everyTask
      samePhase := by
        rw [current]
        exact account.samePhase
      lowerPhase := by
        rw [current]
        exact account.lowerPhase
      ready := by
        rw [working]
        exact account.ready
      invoked := by
        intro id called
        rcases account.invoked id called with ⟨worker, member, rest⟩ | finished
        · exact .inl ⟨worker, mem_append_left _ member, rest⟩
        exact .inr finished
      fresh := by
        intro worker member new
        rcases mem_append.1 member with before | last
        · exact account.fresh worker before new
        rw [mem_singleton] at last
        rw [last]
        exact uninvoked }

variable {before after : List Working} {worker : Working}

theorem account_invoke (account : Account tasks dependencies state finishedTasks)
    (holds : state.working = before ++ worker :: after) (fresh : worker.invoked = false)
    (unique : (tasks.map (·.taskId)).Nodup) : Account tasks dependencies { state with
        working := before ++ { worker with invoked := true } :: after
        invocations := state.invocations ++ [worker.task.taskId] }
      finishedTasks := by
  have working : (before ++ { worker with invoked := true } :: after).map (·.task) =
      state.working.map (·.task) := by
    rw [holds]
    simp
  have current : RunState.current { state with
        working := before ++ { worker with invoked := true } :: after
        invocations := state.invocations ++ [worker.task.taskId] } = state.current := by
    rw [RunState.current, RunState.current, working]
  have uninvoked := account.fresh worker (by rw [holds]; simp) fresh
  have distinct := account.nodup unique
  have others : ∀ other ∈ before ++ after, other.task.taskId ≠ worker.task.taskId := by
    rw [map_append, nodup_append', map_append, nodup_append', RunState.current,
      map_append, nodup_append', holds, map_map] at distinct
    have apart := distinct.2.1.1.1
    rw [map_append, map_cons, nodup_middle, nodup_cons, ← map_append]
      at apart
    intro other member same
    have held := mem_map_of_mem
      (f := (fun task : PreparedTask => task.taskId) ∘ Working.task) member
    exact apart.1 (by simpa [same] using held)
  exact { account with
      everyTask := by
        rw [current]
        exact account.everyTask
      samePhase := by
        rw [current]
        exact account.samePhase
      lowerPhase := by
        rw [current]
        exact account.lowerPhase
      ready := by
        rw [working]
        exact account.ready
      once := by
        rw [nodup_append']
        exact ⟨account.once, nodup_singleton _, by simpa using uninvoked⟩
      invoked := by
        intro id called
        rcases mem_append.1 called with old | new
        · rcases account.invoked id old with ⟨other, member, flag, name⟩ | finished
          · left
            rw [holds] at member
            rcases mem_append.1 member with inBefore | inAfter
            · exact ⟨other, mem_append_left _ inBefore, flag, name⟩
            rcases mem_cons.1 inAfter with rfl | inAfter
            · rw [fresh] at flag
              cases flag
            exact ⟨other, mem_append_right _ (mem_cons_of_mem _ inAfter), flag, name⟩
          · exact .inr finished
        rw [mem_singleton] at new
        left
        exact ⟨{ worker with invoked := true }, by simp, rfl, new.symm⟩
      fresh := by
        intro other member new called
        have elsewhere : other ∈ before ++ after := by
          rcases mem_append.1 member with inBefore | inAfter
          · exact mem_append_left _ inBefore
          rcases mem_cons.1 inAfter with rfl | inAfter
          · cases new
          exact mem_append_right _ inAfter
        rcases mem_append.1 called with old | same
        · refine account.fresh other ?_ new old
          rw [holds]
          rcases mem_append.1 elsewhere with inBefore | inAfter
          · exact mem_append_left _ inBefore
          exact mem_append_right _ (mem_cons_of_mem _ inAfter)
        rw [mem_singleton] at same
        exact others other elsewhere same }

theorem settled_append (distinct : ((results ++ more).map (·.taskId)).Nodup)
    (settled : ∀ task ∈ results, ∀ parent ∈ parentsOf dependencies task.taskId,
      (completedState results parent).isSome = true)
    (blocked : ∀ task ∈ results, task.state = .dependencyBlocked ↔
      ∃ parent ∈ parentsOf dependencies task.taskId,
        completedState results parent ≠ some .succeeded)
    {task : CollaborationTaskResult} (member : task ∈ results) :
    (∀ parent ∈ parentsOf dependencies task.taskId,
      (completedState (results ++ more) parent).isSome = true) ∧
    (task.state = .dependencyBlocked ↔ ∃ parent ∈ parentsOf dependencies task.taskId,
      completedState (results ++ more) parent ≠ some .succeeded) := by
  have same : ∀ parent ∈ parentsOf dependencies task.taskId,
      completedState (results ++ more) parent = completedState results parent :=
    fun parent inside => completedState_append_of_isSome distinct (settled task member parent inside)
  constructor
  · intro parent inside
    rw [same parent inside]
    exact settled task member parent inside
  rw [blocked task member]
  constructor
  · rintro ⟨parent, inside, failed⟩
    exact ⟨parent, inside, by rwa [same parent inside]⟩
  rintro ⟨parent, inside, failed⟩
  exact ⟨parent, inside, by rwa [← same parent inside]⟩

theorem account_finish (account : Account tasks dependencies state finishedTasks)
    (holds : state.working = before ++ worker :: after) (unique : (tasks.map (·.taskId)).Nodup) :
    Account tasks dependencies { state with
        working := before ++ after
        results := state.results ++ [executeTask limits worker.task worker.run] }
      (finishedTasks ++ [worker.task]) := by
  have everyTask : ((finishedTasks ++ [worker.task]) ++ (RunState.current { state with
        working := before ++ after
        results := state.results ++ [executeTask limits worker.task worker.run] } ++
      state.phases.flatten)).Perm tasks := by
    refine List.Perm.trans ?_ account.everyTask
    rw [RunState.current, RunState.current, holds, append_assoc, map_append, map_append, map_cons]
    apply List.Perm.append_left
    simp only [append_assoc, cons_append, nil_append]
    exact perm_middle.symm
  have results : (state.results ++ [executeTask limits worker.task worker.run]).map
      (fun task => (task.taskId, task.phase)) =
      (finishedTasks ++ [worker.task]).map fun task => (task.taskId, task.phase) := by
    rw [map_append, map_append, account.results, map_singleton, map_singleton,
      executeTask_taskId, executeTask_phase]
  have distinct : ((state.results ++ [executeTask limits worker.task worker.run]).map
      (·.taskId)).Nodup := by
    have all := (everyTask.map (·.taskId)).nodup_iff.2 unique
    rw [map_append, nodup_append'] at all
    rw [ids_of_same results]
    exact all.1
  have held : worker.task ∈ state.working.map (·.task) := by
    rw [holds]
    simp
  have remaining : ∀ a ∈ RunState.current { state with
        working := before ++ after
        results := state.results ++ [executeTask limits worker.task worker.run] },
      a ∈ state.current := by
    intro a member
    rw [RunState.current, mem_append] at member ⊢
    rw [holds]
    rcases member with working | rest
    · left
      rw [map_append, mem_append] at working
      rw [map_append, map_cons, mem_append, mem_cons]
      exact working.imp id .inr
    exact .inr rest
  have workerReady : ∀ parent ∈ parentsOf dependencies worker.task.taskId,
      completedState state.results parent = some .succeeded :=
    account.ready worker.task (mem_append_left _ held)
  have stable : ∀ parent, completedState state.results parent = some .succeeded →
      completedState (state.results ++ [executeTask limits worker.task worker.run]) parent =
        some .succeeded := by
    intro parent found
    rw [completedState_append_of_isSome distinct (by rw [found]; rfl), found]
  exact { account with
      everyTask := everyTask
      results := results
      samePhase := fun a ha b hb => account.samePhase a (remaining a ha) b (remaining b hb)
      lowerPhase := by
        intro a ha
        apply account.lowerPhase
        rw [mem_append, mem_append, mem_singleton] at ha
        rw [mem_append]
        rcases ha with (old | rfl) | here
        · exact .inl old
        · exact .inr (mem_append_left _ held)
        exact .inr (remaining a here)
      ready := by
        intro a member parent inside
        refine stable parent (account.ready a ?_ parent inside)
        rw [mem_append] at member ⊢
        rw [holds]
        refine member.imp_left fun working => ?_
        rw [map_append, mem_append] at working
        rw [map_append, map_cons, mem_append, mem_cons]
        exact working.imp id .inr
      settled := by
        intro task member parent inside
        rcases mem_append.1 member with old | new
        · exact (settled_append distinct account.settled account.blocked old).1 parent inside
        rw [mem_singleton] at new
        rw [new, executeTask_taskId] at inside
        rw [stable parent (workerReady parent inside)]
        rfl
      blocked := by
        intro task member
        rcases mem_append.1 member with old | new
        · exact (settled_append distinct account.settled account.blocked old).2
        rw [mem_singleton] at new
        rw [new, executeTask_taskId]
        refine iff_of_false (executeTask_ne_blocked _ _ _) ?_
        rintro ⟨parent, inside, failed⟩
        exact failed (stable parent (workerReady parent inside))
      invoked := by
        intro id called
        rcases account.invoked id called with ⟨other, member, flag, name⟩ | ⟨task, member, rest⟩
        · rw [holds] at member
          rcases mem_append.1 member with inBefore | inAfter
          · exact .inl ⟨other, mem_append_left _ inBefore, flag, name⟩
          rcases mem_cons.1 inAfter with rfl | inAfter
          · right
            exact ⟨_, mem_append_right _ mem_cons_self,
              by rw [executeTask_taskId, name], executeTask_ne_blocked _ _ _⟩
          exact .inl ⟨other, mem_append_right _ inAfter, flag, name⟩
        exact .inr ⟨task, mem_append_left _ member, rest⟩
      fresh := by
        intro other member
        apply account.fresh other
        rw [holds]
        rcases mem_append.1 member with inBefore | inAfter
        · exact mem_append_left _ inBefore
        exact mem_append_right _ (mem_cons_of_mem _ inAfter) }

def nextWaveTasks (dependencies : Dependencies) (state : RunState) : List PreparedTask :=
  state.pending.filter fun task => readyForWave dependencies state.results task

def blockedTasks (dependencies : Dependencies) (state : RunState) : List PreparedTask :=
  (nextWaveTasks dependencies state).filter fun task =>
    failedParents dependencies state.results task ≠ []

theorem failedParents_eq_nil_iff :
    failedParents dependencies results task = [] ↔ ∀ parent ∈ parentsOf dependencies task.taskId,
        completedState results parent = some .succeeded := by
  simp only [failedParents, filter_eq_nil_iff, decide_eq_true_eq, not_not]

theorem account_nextWave (account : Account tasks dependencies state finishedTasks)
    (now : CollaborationTaskId → Int64) (done : state.waveDone)
    (nonempty : nextWaveTasks dependencies state ≠ []) (unique : (tasks.map (·.taskId)).Nodup) :
    Account tasks dependencies (startWave limits dependencies now state)
      (finishedTasks ++ blockedTasks dependencies state) := by
  have idle : state.current = state.pending := current_of_waveDone done
  have parts : (blockedTasks dependencies state ++
      ((startWave limits dependencies now state).runnable ++
        (startWave limits dependencies now state).pending)).Perm state.pending := by
    have wave := filter_append_perm
      (fun task => decide (failedParents dependencies state.results task = []))
      (nextWaveTasks dependencies state)
    have whole := filter_append_perm
      (fun task => readyForWave dependencies state.results task) state.pending
    rw [← append_assoc]
    refine List.Perm.trans ?_ whole
    have waiting : (startWave limits dependencies now state).pending =
        state.pending.filter fun task => !readyForWave dependencies state.results task := by
      simp [startWave]
    rw [waiting]
    refine List.Perm.append_right _ (perm_append_comm.trans (List.Perm.trans ?_ wave))
    apply List.Perm.of_eq
    simp only [startWave, nextWaveTasks, blockedTasks, ne_eq, decide_not]
  have current : (startWave limits dependencies now state).current =
      (startWave limits dependencies now state).runnable ++
        (startWave limits dependencies now state).pending := by
    have noWorkers : (startWave limits dependencies now state).working = [] := done.2
    have atStart : (startWave limits dependencies now state).nextTask = 0 := rfl
    rw [RunState.current, noWorkers, atStart]
    rfl
  have everyTask : ((finishedTasks ++ blockedTasks dependencies state) ++
      ((startWave limits dependencies now state).current ++ state.phases.flatten)).Perm tasks := by
    refine List.Perm.trans ?_ account.everyTask
    rw [idle, current, append_assoc]
    apply List.Perm.append_left
    rw [← append_assoc]
    exact parts.append_right _
  have results : (startWave limits dependencies now state).results.map
      (fun task => (task.taskId, task.phase)) =
      (finishedTasks ++ blockedTasks dependencies state).map
        fun task => (task.taskId, task.phase) := by
    rw [startWave, map_append, map_append, account.results, map_map]
    rfl
  have distinct : ((startWave limits dependencies now state).results.map (·.taskId)).Nodup := by
    have all := (everyTask.map (·.taskId)).nodup_iff.2 unique
    rw [map_append, nodup_append'] at all
    rw [ids_of_same results]
    exact all.1
  obtain ⟨more, extended⟩ : ∃ more, (startWave limits dependencies now state).results =
      state.results ++ more := ⟨_, rfl⟩
  have stable : ∀ parent, (completedState state.results parent).isSome = true →
      completedState (startWave limits dependencies now state).results parent =
        completedState state.results parent := by
    intro parent found
    rw [extended] at distinct ⊢
    exact completedState_append_of_isSome distinct found
  have inPending : ∀ a ∈ blockedTasks dependencies state ++
      (startWave limits dependencies now state).current, a ∈ state.current := by
    intro a member
    rw [idle]
    rw [current] at member
    exact parts.mem_iff.1 member
  have parentsDone : ∀ a ∈ nextWaveTasks dependencies state,
      ∀ parent ∈ parentsOf dependencies a.taskId,
        (completedState state.results parent).isSome = true := by
    intro a member
    have ready := (mem_filter.1 member).2
    rw [readyForWave, all_eq_true] at ready
    exact ready
  have newResult : ∀ task ∈ (startWave limits dependencies now state).results,
      task ∈ state.results ∨ ∃ source ∈ blockedTasks dependencies state,
        task.taskId = source.taskId ∧ task.state = .dependencyBlocked := by
    intro task member
    rw [startWave] at member
    rcases mem_append.1 member with old | new
    · exact .inl old
    obtain ⟨source, inBlocked, rfl⟩ := mem_map.1 new
    exact .inr ⟨source, inBlocked, rfl, rfl⟩
  have ready : ∀ a ∈ (startWave limits dependencies now state).runnable,
      ∀ parent ∈ parentsOf dependencies a.taskId,
        completedState state.results parent = some .succeeded := by
    intro a member
    have clean := (mem_filter.1 member).2
    rw [decide_eq_true_eq] at clean
    exact failedParents_eq_nil_iff.1 clean
  exact { account with
      everyTask := everyTask
      results := results
      samePhase := by
        intro a ha b hb
        exact account.samePhase a (inPending a (mem_append_right _ ha)) b
          (inPending b (mem_append_right _ hb))
      lowerPhase := by
        intro a ha
        apply account.lowerPhase
        rw [append_assoc] at ha
        rw [mem_append] at ha ⊢
        exact ha.imp id (inPending a)
      ready := by
        intro a member parent inside
        have noWorkers : (startWave limits dependencies now state).working = [] := done.2
        rw [noWorkers] at member
        have found := ready a member parent inside
        rw [stable parent (by rw [found]; rfl), found]
      settled := by
        intro task member parent inside
        rcases newResult task member with old | ⟨source, inBlocked, name, _⟩
        · rw [extended] at distinct ⊢
          exact (settled_append distinct account.settled account.blocked old).1 parent inside
        rw [name] at inside
        have found := parentsDone source (mem_of_mem_filter inBlocked) parent inside
        rw [stable parent found]
        exact found
      blocked := by
        intro task member
        rcases newResult task member with old | ⟨source, inBlocked, name, isBlocked⟩
        · rw [extended] at distinct ⊢
          exact (settled_append distinct account.settled account.blocked old).2
        rw [name]
        refine iff_of_true isBlocked ?_
        have failed := (mem_filter.1 inBlocked).2
        rw [decide_eq_true_eq, ne_eq, failedParents_eq_nil_iff] at failed
        push Not at failed
        obtain ⟨parent, inside, unsuccessful⟩ := failed
        refine ⟨parent, inside, ?_⟩
        rw [stable parent (parentsDone source (mem_of_mem_filter inBlocked) parent inside)]
        exact unsuccessful
      invoked := by
        intro id called
        rcases account.invoked id called with held | ⟨task, member, rest⟩
        · exact .inl held
        exact .inr ⟨task, mem_append_left _ member, rest⟩
      waves := by
        intro wave member
        rcases mem_append.1 member with old | new
        · exact account.waves wave old
        rw [mem_singleton] at new
        rw [new]
        exact fun empty => nonempty (map_eq_nil_iff.1 empty) }

end Steps

end Wts.Collaboration
