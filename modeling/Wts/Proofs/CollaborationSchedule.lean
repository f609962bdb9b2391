/-
Module: Wts.Proofs.CollaborationSchedule
Purpose: What the schedule of an accepted plan guarantees.
Trusted boundary: none
Main exports: schedule_guarantees
-/
import Wts.Proofs.CollaborationRun

namespace Wts.Collaboration

open List Relation
open Std (ExtTreeMap)

/-- A run of the plan reaches the state. -/
def Reaches (limits : CollaborationLimits) (dependencies : Dependencies) (tasks : List PreparedTask)
    (state : RunState) : Prop :=
  ReflTransGen (Step limits dependencies) (initialState tasks) state

section Runs

variable {tasks : List PreparedTask} {dependencies : Dependencies} {limits : CollaborationLimits}
  {state next : RunState} {finishedTasks : List PreparedTask}

theorem nextWave_nonempty (sound : Sound tasks dependencies)
    (account : Account tasks dependencies state finishedTasks) (done : state.waveDone)
    (more : state.pending ≠ []) : nextWaveTasks dependencies state ≠ [] := by
  have idle := current_of_waveDone done
  obtain ⟨id, member, minimal⟩ := Acyclic.exists_minimal
    (show state.pending.map (·.taskId) ≠ [] by simpa using more) sound.acyclic
  obtain ⟨task, pending, rfl⟩ := mem_map.1 member
  have inPlan : task ∈ tasks := by
    rw [← account.everyTask.mem_iff, idle]
    exact mem_append_right _ (mem_append_left _ pending)
  have ready : readyForWave dependencies state.results task = true := by
    rw [readyForWave, all_eq_true]
    intro parent edge
    apply completedState_isSome
    rw [account.resultIds]
    obtain ⟨parentTask, known, rfl⟩ := mem_map.1 (sound.known task inPlan parent edge)
    have place := known
    rw [← account.everyTask.mem_iff, idle, mem_append, mem_append] at place
    rcases place with finished | here | later
    · exact mem_map_of_mem finished
    · exact absurd edge (minimal _ (mem_map_of_mem here))
    have lower := account.lowerPhase task (mem_append_right _ (idle ▸ pending)) parentTask later
    exact absurd (sound.phases task inPlan parentTask known edge) (Nat.not_le.2 lower)
  exact ne_nil_of_mem (mem_filter.2 ⟨pending, ready⟩)

theorem account_step (unique : (tasks.map (·.taskId)).Nodup) (sound : Sound tasks dependencies)
    (account : Account tasks dependencies state finishedTasks)
    (step : Step limits dependencies state next) :
    ∃ finishedTasks, Account tasks dependencies next finishedTasks := by
  cases step with
  | nextPhase group rest done noPending more =>
    exact ⟨_, account_nextPhase account done noPending more⟩
  | nextWave now done more =>
    have nonempty := nextWave_nonempty sound account done more
    exact ⟨_, account_nextWave account now done nonempty unique⟩
  | claim task run idle next => exact ⟨_, account_claim account run next unique⟩
  | invoke before after worker holds calls fresh =>
    exact ⟨_, account_invoke account holds fresh unique⟩
  | finish before after worker holds returned => exact ⟨_, account_finish account holds unique⟩

theorem account_of_reaches (unique : (tasks.map (·.taskId)).Nodup)
    (sound : Sound tasks dependencies) (reached : Reaches limits dependencies tasks state) :
    ∃ finishedTasks, Account tasks dependencies state finishedTasks := by
  induction reached with
  | refl => exact ⟨[], account_initial tasks dependencies⟩
  | tail _ step ih =>
    obtain ⟨finishedTasks, account⟩ := ih
    exact account_step unique sound account step

/-- Only executions that get as far as the adapter call make it. -/
def CallsJustified (state : RunState) : Prop :=
  ∀ worker ∈ state.working, worker.invoked = true → worker.run.callsAdapter = true

theorem callsJustified_step (justified : CallsJustified state)
    (step : Step limits dependencies state next) : CallsJustified next := by
  cases step with
  | nextPhase => exact justified
  | nextWave => exact justified
  | claim task run idle next =>
    intro worker member invoked
    rcases mem_append.1 member with old | new
    · exact justified worker old invoked
    rw [mem_singleton.1 new] at invoked
    cases invoked
  | invoke before after worker holds calls fresh =>
    intro other member invoked
    rcases mem_append.1 member with inBefore | rest
    · exact justified other (holds ▸ mem_append_left _ inBefore) invoked
    rcases mem_cons.1 rest with rfl | inAfter
    · exact calls
    exact justified other (holds ▸ mem_append_right _ (mem_cons_of_mem _ inAfter)) invoked
  | finish before after worker holds returned =>
    intro other member
    apply justified other
    rw [holds]
    rcases mem_append.1 member with inBefore | inAfter
    · exact mem_append_left _ inBefore
    exact mem_append_right _ (mem_cons_of_mem _ inAfter)

theorem callsJustified_of_reaches (reached : Reaches limits dependencies tasks state) :
    CallsJustified state := by
  induction reached with
  | refl => exact fun _ member => absurd member not_mem_nil
  | tail _ step ih => exact callsJustified_step ih step

theorem exists_step (parallel : 0 < limits.maximumParallelAgents) (justified : CallsJustified state)
    (unfinished : ¬ state.finished) : ∃ next, Step limits dependencies state next := by
  cases working : state.working with
  | cons worker rest =>
    by_cases returned : worker.invoked = worker.run.callsAdapter
    · exact ⟨_, .finish state [] rest worker working returned⟩
    -- a worker that has not come back is about to call the adapter
    · cases invoked : worker.invoked with
      | true =>
        have calls := justified worker (working ▸ mem_cons_self) invoked
        exact absurd (invoked.trans calls.symm) returned
      | false =>
        rw [invoked] at returned
        have calls : worker.run.callsAdapter = true :=
          Bool.eq_true_of_not_eq_false fun no => returned no.symm
        exact ⟨_, .invoke state [] rest worker working calls invoked⟩
  | nil =>
    by_cases waiting : state.nextTask < state.runnable.length
    · have run : TaskRun :=
        { acquire := .ok (), checkpoint := .ok (), outcome := none, cancelledAfter := false,
          deadlinePassed := false, startedAtUnixMs := 0, completedAtUnixMs := 0,
          durationMs := 0 }
      have idle : state.working.length < workerCount limits state := by
        rw [working, workerCount, length_nil]
        omega
      exact ⟨_, .claim state _ run idle (getElem?_eq_getElem waiting)⟩
    have done : state.waveDone := ⟨Nat.le_of_not_lt waiting, working⟩
    by_cases noPending : state.pending = []
    · cases phases : state.phases with
      | nil => exact absurd ⟨phases, noPending, done⟩ unfinished
      | cons group rest => exact ⟨_, .nextPhase state group rest done noPending phases⟩
    exact ⟨_, .nextWave state (fun _ => 0) done noPending⟩

def Working.left (worker : Working) : ℕ :=
  if worker.invoked then 1 else 2

theorem Working.left_pos (worker : Working) : 0 < worker.left := by
  rw [Working.left]
  split <;> decide

def RunState.left (state : RunState) : ℕ :=
  4 * (state.pending.length + state.phases.flatten.length) + state.phases.length +
    3 * (state.runnable.length - state.nextTask) + (state.working.map Working.left).sum

theorem left_lt_of_step (sound : Sound tasks dependencies)
    (account : Account tasks dependencies state finishedTasks)
    (step : Step limits dependencies state next) : next.left < state.left := by
  cases step with
  | nextPhase group rest done noPending more =>
    simp only [RunState.left, noPending, more, flatten_cons, length_append, length_nil, length_cons]
    omega
  | nextWave now done more =>
    have nonempty := length_pos_of_ne_nil (nextWave_nonempty sound account done more)
    have split := (filter_append_perm
      (fun task => readyForWave dependencies state.results task) state.pending).length_eq
    have clean := length_filter_le
      (fun task => decide (failedParents dependencies state.results task = []))
      (nextWaveTasks dependencies state)
    rw [length_append] at split
    simp only [nextWaveTasks] at nonempty clean
    simp only [RunState.left, startWave, Bool.not_eq_true, Bool.decide_eq_false]
    omega
  | claim task run idle next =>
    obtain ⟨inside, _⟩ := List.getElem?_eq_some_iff.1 next
    simp only [RunState.left, map_append, sum_append, map_singleton, sum_singleton, Working.left]
    simp only [Bool.false_eq_true, if_false]
    omega
  | invoke before after worker holds calls fresh =>
    simp only [RunState.left, holds, map_append, map_cons, sum_append,
      sum_cons, Working.left, fresh]
    simp only [Bool.false_eq_true, if_true, if_false]
    omega
  | finish before after worker holds returned =>
    have positive := worker.left_pos
    simp only [RunState.left, holds, map_append, map_cons, sum_append, sum_cons]
    omega

theorem no_infinite_run (unique : (tasks.map (·.taskId)).Nodup) (sound : Sound tasks dependencies) :
    ¬ ∃ run : ℕ → RunState, run 0 = initialState tasks ∧
      ∀ n, Step limits dependencies (run n) (run (n + 1)) := by
  rintro ⟨run, start, steps⟩
  have reached : ∀ n, Reaches limits dependencies tasks (run n) := by
    intro n
    induction n with
    | zero =>
      rw [start]
      exact .refl
    | succ n ih => exact ih.tail (steps n)
  have bound : ∀ n, (run n).left + n ≤ (run 0).left := by
    intro n
    induction n with
    | zero => exact Nat.le_refl _
    | succ n ih =>
      obtain ⟨finishedTasks, account⟩ := account_of_reaches unique sound (reached n)
      have lower := left_lt_of_step sound account (steps n)
      omega
  have tooLong := bound ((run 0).left + 1)
  omega

end Runs

/-- The order of the report. -/
def ReportOrder (left right : CollaborationTaskResult) : Prop :=
  left.phase < right.phase ∨ left.phase = right.phase ∧ left.taskId ≤ right.taskId

instance : DecidableRel ReportOrder := fun left right =>
  inferInstanceAs (Decidable (left.phase < right.phase ∨
    left.phase = right.phase ∧ left.taskId ≤ right.taskId))

instance : Std.Total ReportOrder where
  total left right := by
    rcases Nat.lt_trichotomy left.phase right.phase with less | same | more
    · exact .inl (.inl less)
    · rcases le_total left.taskId right.taskId with below | above
      · exact .inl (.inr ⟨same, below⟩)
      · exact .inr (.inr ⟨same.symm, above⟩)
    · exact .inr (.inl more)

instance : IsTrans CollaborationTaskResult ReportOrder where
  trans a b c := by
    rintro (less | ⟨same, below⟩) (also | ⟨again, further⟩)
    · exact .inl (less.trans also)
    · exact .inl (again ▸ less)
    · exact .inl (same ▸ also)
    · exact .inr ⟨same.trans again, below.trans further⟩

variable {results : List CollaborationTaskResult}

theorem report_sorted
    (distinct : (results.map (·.taskId)).Nodup) : (report results).Pairwise fun left right =>
      left.phase < right.phase ∨ left.phase = right.phase ∧ left.taskId < right.taskId := by
  have sorted : (report results).Pairwise ReportOrder :=
    pairwise_insertionSort ReportOrder results
  have apart : (report results).Pairwise fun left right => left.taskId ≠ right.taskId := by
    rw [← pairwise_map (f := fun task : CollaborationTaskResult => task.taskId)
      (R := fun left right => left ≠ right)]
    exact ((perm_insertionSort _ results).map _).nodup_iff.2 distinct
  refine (sorted.and apart).imp fun {left right} both => ?_
  obtain ⟨less | ⟨same, below⟩, different⟩ := both
  · exact .inl less
  exact .inr ⟨same, lt_of_le_of_ne below different⟩

/-! ### The guarantees -/

def HasResult (results : List CollaborationTaskResult) (id : CollaborationTaskId) : Prop :=
  ∃ task ∈ results, task.taskId = id

/-- The task is reported as succeeded. -/
def HasSucceeded (results : List CollaborationTaskResult) (id : CollaborationTaskId) : Prop :=
  ∃ task ∈ results, task.taskId = id ∧ task.state = .succeeded

/-- What a run of the plan guarantees in every interleaving and for every outcome of the adapter. -/
structure Guarantees (limits : CollaborationLimits) (dependencies : Dependencies)
    (tasks : List PreparedTask) : Prop where
  /-- no run goes on forever -/
  ends : ¬ ∃ run : ℕ → RunState, run 0 = initialState tasks ∧
    ∀ n, Step limits dependencies (run n) (run (n + 1))
  /-- a run only stops when it has finished -/
  progresses : ∀ state, Reaches limits dependencies tasks state → ¬ state.finished →
    ∃ next, Step limits dependencies state next
  waves : ∀ state, Reaches limits dependencies tasks state → ∀ wave ∈ state.waves, wave ≠ []
  /-- the report has one result for each task -/
  reported : ∀ state, Reaches limits dependencies tasks state → state.finished →
    ((report state.results).map fun task => (task.taskId, task.phase)).Perm
      (tasks.map fun task => (task.taskId, task.phase))
  sorted : ∀ state, Reaches limits dependencies tasks state → (report state.results).Pairwise
    fun left right =>
      left.phase < right.phase ∨ left.phase = right.phase ∧ left.taskId < right.taskId
  invokedOnce : ∀ state, Reaches limits dependencies tasks state → state.invocations.Nodup
  /-- at an adapter call all lower phases are done and all prerequisites succeeded -/
  invokedReady : ∀ state next, Reaches limits dependencies tasks state →
    Step limits dependencies state next → ∀ id ∈ next.invocations, id ∉ state.invocations →
      ∃ task ∈ tasks, task.taskId = id ∧
        (∀ lower ∈ tasks, lower.phase < task.phase → HasResult state.results lower.taskId) ∧
        ∀ parent ∈ parentsOf dependencies id, HasSucceeded state.results parent
  /-- a task with an unsuccessful prerequisite is reported as blocked and is not run -/
  blocked : ∀ state, Reaches limits dependencies tasks state → ∀ task ∈ state.results,
    (∃ parent ∈ parentsOf dependencies task.taskId, ¬ HasSucceeded state.results parent) →
      task.state = .dependencyBlocked ∧ task.taskId ∉ state.invocations

theorem hasSucceeded_iff {id : CollaborationTaskId} (distinct : (results.map (·.taskId)).Nodup) :
    HasSucceeded results id ↔ completedState results id = some .succeeded := by
  constructor
  · rintro ⟨task, member, rfl, succeeded⟩
    rw [completedState_of_mem distinct member, succeeded]
  exact mem_of_completedState

section Runs

variable {tasks : List PreparedTask} {dependencies : Dependencies} {limits : CollaborationLimits}
  {state next : RunState} {finishedTasks : List PreparedTask}

section

variable (account : Account tasks dependencies state finishedTasks)
include account

theorem reported_of_finished (finished : state.finished) :
    ((report state.results).map fun task => (task.taskId, task.phase)).Perm
      (tasks.map fun task => (task.taskId, task.phase)) := by
  obtain ⟨noPhases, noPending, done⟩ := finished
  have everyTask := account.everyTask
  rw [current_of_waveDone done, noPending, noPhases, flatten_nil, append_nil,
    append_nil] at everyTask
  refine ((perm_insertionSort _ state.results).map _).trans ?_
  rw [account.results]
  exact everyTask.map _

theorem invoke_ready {before after : List Working} {worker : Working}
    (holds : state.working = before ++ worker :: after) : worker.task ∈ tasks ∧
      (∀ lower ∈ tasks, lower.phase < worker.task.phase → HasResult state.results lower.taskId) ∧
      ∀ parent ∈ parentsOf dependencies worker.task.taskId, HasSucceeded state.results parent := by
  have held : worker.task ∈ state.working.map (·.task) := by
    rw [holds]
    simp
  have here : worker.task ∈ state.current := mem_append_left _ held
  refine ⟨?_, ?_, ?_⟩
  · rw [← account.everyTask.mem_iff]
    exact mem_append_right _ (mem_append_left _ here)
  · intro lower member less
    rw [← account.everyTask.mem_iff, mem_append, mem_append] at member
    rcases member with finished | same | later
    · have id := mem_map_of_mem (f := fun task : PreparedTask => task.taskId) finished
      rw [← account.resultIds] at id
      obtain ⟨task, inside, name⟩ := mem_map.1 id
      exact ⟨task, inside, name⟩
    · exact absurd (account.samePhase _ same _ here) (Nat.ne_of_lt less)
    have above := account.lowerPhase _ (mem_append_right _ here) _ later
    omega
  intro parent edge
  exact mem_of_completedState (account.ready _ (mem_append_left _ held) parent edge)

theorem invokedReady_of_step (step : Step limits dependencies state next) {id : CollaborationTaskId}
    (called : id ∈ next.invocations) (new : id ∉ state.invocations) :
    ∃ task ∈ tasks, task.taskId = id ∧
      (∀ lower ∈ tasks, lower.phase < task.phase → HasResult state.results lower.taskId) ∧
      ∀ parent ∈ parentsOf dependencies id, HasSucceeded state.results parent := by
  cases step with
  | nextPhase => exact absurd called new
  | nextWave => exact absurd called new
  | claim => exact absurd called new
  | finish => exact absurd called new
  | invoke before after worker holds calls fresh =>
    rcases mem_append.1 called with old | last
    · exact absurd old new
    rw [mem_singleton] at last
    obtain ⟨inPlan, lower, parents⟩ := invoke_ready account holds
    exact ⟨worker.task, inPlan, last.symm, lower, last ▸ parents⟩

end

theorem blocked_of_failedParent (unique : (tasks.map (·.taskId)).Nodup)
    (account : Account tasks dependencies state finishedTasks) {task : CollaborationTaskResult}
    (member : task ∈ state.results) (failed : ∃ parent ∈ parentsOf dependencies task.taskId,
      ¬ HasSucceeded state.results parent) :
    task.state = .dependencyBlocked ∧ task.taskId ∉ state.invocations := by
  have distinct := account.nodup_results unique
  have isBlocked : task.state = .dependencyBlocked := by
    rw [account.blocked task member]
    obtain ⟨parent, edge, unsuccessful⟩ := failed
    exact ⟨parent, edge, fun found => unsuccessful ((hasSucceeded_iff distinct).2 found)⟩
  refine ⟨isBlocked, fun called => ?_⟩
  rcases account.invoked _ called with ⟨worker, held, _, name⟩ | ⟨other, also, name, notBlocked⟩
  · -- a task in the hands of a worker has no result
    have places := account.nodup unique
    rw [map_append, nodup_append', ← account.resultIds] at places
    have busy : worker.task ∈ state.current :=
      mem_append_left _ (mem_map_of_mem held)
    have second := mem_map_of_mem (f := fun task : PreparedTask => task.taskId)
      (mem_append_left state.phases.flatten busy)
    rw [name] at second
    exact places.2.2 (mem_map_of_mem member) second
  have same := inj_on_of_nodup_map distinct also member name
  exact notBlocked (same ▸ isBlocked)

theorem guarantees_of_sound (parallel : 0 < limits.maximumParallelAgents)
    (unique : (tasks.map (·.taskId)).Nodup) (sound : Sound tasks dependencies) :
    Guarantees limits dependencies tasks where
  ends := no_infinite_run unique sound
  progresses := fun _ reached unfinished =>
    exists_step parallel (callsJustified_of_reaches reached) unfinished
  waves := by
    intro state reached
    obtain ⟨finishedTasks, account⟩ := account_of_reaches unique sound reached
    exact account.waves
  reported := by
    intro state reached finished
    obtain ⟨finishedTasks, account⟩ := account_of_reaches unique sound reached
    exact reported_of_finished account finished
  sorted := by
    intro state reached
    obtain ⟨finishedTasks, account⟩ := account_of_reaches unique sound reached
    exact report_sorted (account.nodup_results unique)
  invokedOnce := by
    intro state reached
    obtain ⟨finishedTasks, account⟩ := account_of_reaches unique sound reached
    exact account.once
  invokedReady := by
    intro state next reached step id called new
    obtain ⟨finishedTasks, account⟩ := account_of_reaches unique sound reached
    exact invokedReady_of_step account step called new
  blocked := by
    intro state reached task member failed
    obtain ⟨finishedTasks, account⟩ := account_of_reaches unique sound reached
    exact blocked_of_failedParent unique account member failed

end Runs

theorem parallel_pos_of_checkLimits {limits : CollaborationLimits}
    (valid : checkLimits limits = .ok ()) : 0 < limits.maximumParallelAgents := by
  unfold checkLimits at valid
  split at valid
  · cases valid
  omega

/-- Dependency validation rejects exactly the plans with a faulty or foreign entry, and every run of
an accepted plan keeps the guarantees of the schedule. -/
theorem schedule_guarantees {limits : CollaborationLimits} {host : PlanHost}
    {tasks : List CollaborationTask} {prepared : List PreparedTask}
    (valid : checkLimits limits = .ok ()) (accepted : prepare limits host tasks = .ok prepared)
    (dependencies : Dependencies) :
    ((∃ error, validateDependencies prepared dependencies = .error error) ↔
      Faulty prepared dependencies ∨ ForeignEntry prepared dependencies) ∧
    (validateDependencies prepared dependencies = .ok () →
      Guarantees limits dependencies prepared) := by
  have unique := nodup_of_prepare accepted
  refine ⟨validateDependencies_error_iff dependencies unique, fun validated => ?_⟩
  exact guarantees_of_sound (parallel_pos_of_checkLimits valid) unique
    ((validateDependencies_eq_ok_iff dependencies unique).1 validated)

def workspacePath (components : List String) : PathBuf where
  absolute := true
  components := "workspace" :: components

def scopedTask (taskId : CollaborationTaskId) : CollaborationTask where
  taskId := taskId
  workspaceId := 1
  workspaceRoot := workspacePath []
  scopeRoot := workspacePath [taskId]
  provider := .codex
  prompt := "review"
  phase := 0
  timeout := seconds 60

def preparedTask (taskId : CollaborationTaskId) : PreparedTask where
  taskId := taskId
  workspaceId := 1
  workspaceRoot := workspacePath []
  scopeRoot := workspacePath [taskId]
  provider := .codex
  prompt := "review"
  phase := 0
  timeout := seconds 60

def plainLimits : CollaborationLimits where
  maximumParallelAgents := 2
  maximumTasksPerRun := 8
  maximumTaskTimeout := seconds 600
  maximumPromptBytes := 1024
  maximumOutputBytes := 1024
  maximumRetainedEvidence := 4
  maximumRetainedEvidenceBytes := 4096

def plainHost : PlanHost where
  confinement := fun _ => .workspaceWriteIsolated
  canonicalize := some
  symlinkMetadata := fun _ => some { isDir := true, isSymlink := false }

theorem schedule_guarantees_pair :
    Guarantees plainLimits (ExtTreeMap.ofList [("second", ["first"])])
      [preparedTask "first", preparedTask "second"] := by
  have accepted : prepare plainLimits plainHost [scopedTask "first", scopedTask "second"] =
      .ok [preparedTask "first", preparedTask "second"] := by decide +kernel
  refine (schedule_guarantees (by decide) accepted _).2 ?_
  have checked : checkEntries (taskPhases [preparedTask "first", preparedTask "second"])
      (ExtTreeMap.ofList [("second", ["first"])] : Dependencies).toList = .ok () := by
    decide +kernel
  have first : removeTasks ["first", "second"]
      (readyTasks (ExtTreeMap.ofList [("second", ["first"])]) ["first", "second"]) = ["second"] := by
    decide +kernel
  have second : removeTasks ["second"]
      (readyTasks (ExtTreeMap.ofList [("second", ["first"])]) ["second"]) = [] := by
    decide +kernel
  rw [validateDependencies, checked]
  change removeReady _ ["first", "second"] = _
  rw [removeReady, if_neg (by decide), if_neg (by decide +kernel), first,
    removeReady, if_neg (by decide), if_neg (by decide +kernel), second,
    removeReady, if_pos rfl]

/-- A dependency map with an entry for a task that the plan does not have is rejected. -/
theorem schedule_rejects_counterexample :
    prepare plainLimits plainHost [scopedTask "only"] = .ok [preparedTask "only"] ∧
      validateDependencies [preparedTask "only"] (ExtTreeMap.ofList [("other", [])]) =
        .error .unknownDependency ∧
      ¬ Faulty [preparedTask "only"] (ExtTreeMap.ofList [("other", [])]) := by
  refine ⟨by decide +kernel, by decide +kernel, ?_⟩
  have edgeless : ∀ parent task,
      ¬ Requires (ExtTreeMap.ofList [("other", [])]) parent task := by
    intro parent task edge
    obtain ⟨parents, entry, inside⟩ := entry_of_requires edge
    have listed : (task, parents) ∈ (ExtTreeMap.ofList [("other", [])] : Dependencies).toList :=
      MapRows.mem_toList.2 entry
    have rows : (ExtTreeMap.ofList [("other", [])] : Dependencies).toList = [("other", [])] := by
      decide +kernel
    rw [rows, mem_singleton, Prod.mk.injEq] at listed
    rw [listed.2] at inside
    cases inside
  rintro (⟨task, _, parent, edge, _⟩ | ⟨task, _, again⟩ | ⟨task, _, parent, _, edge, _⟩ |
    ⟨task, loop⟩)
  · exact edgeless _ _ edge
  · rw [eq_nil_iff_forall_not_mem.2 fun parent => edgeless parent task.taskId] at again
    exact again nodup_nil
  · exact edgeless _ _ edge
  · obtain ⟨parent, edge⟩ := Relation.TransGen.head'_iff.1 loop
    exact edgeless _ _ edge.1

end Wts.Collaboration
