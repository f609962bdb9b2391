/-
Module: Wts.Proofs.CollaborationPlan
Purpose: Which plans are accepted.
Trusted boundary: none
Main exports: Sound, prepareTask_spec
-/
import Wts.App.Collaboration
import Wts.Library.Acyclic

namespace Wts.Collaboration

open EntryMap List
open Std (ExtTreeMap)

variable {host : PlanHost} {limits : CollaborationLimits}

/-- What a task adds to a plan that accepts it. -/
theorem prepareTask_spec {state next : PrepareState}
    {task : CollaborationTask} (done : prepareTask limits host state task = .ok next) :
    task.taskId ∉ state.taskIds ∧ next.taskIds = task.taskId :: state.taskIds ∧
      ∃ prepared : PreparedTask, prepared.taskId = task.taskId ∧
        next.prepared = state.prepared ++ [prepared] := by
  unfold prepareTask at done
  split at done
  · cases done
  rename_i fresh
  dsimp only at done
  split at done
  · cases done
  split at done
  · cases done
  split at done
  · cases done
  split at done
  · cases done
  split at done
  · cases done
  split at done
  · cases done
  split at done
  · cases done
  split at done
  · cases done
  cases done
  exact ⟨fresh, rfl, _, rfl, rfl⟩

theorem prepareTasks_nodup {tasks : List CollaborationTask} {state final : PrepareState}
    (same : state.taskIds = (state.prepared.map (·.taskId)).reverse)
    (distinct : state.taskIds.Nodup) (done : prepareTasks limits host tasks state = .ok final) :
    (final.prepared.map (·.taskId)).Nodup := by
  induction tasks generalizing state with
  | nil =>
    cases done
    rw [same] at distinct
    exact nodup_reverse.1 distinct
  | cons task rest ih =>
    rw [prepareTasks] at done
    split at done
    · cases done
    rename_i next step
    obtain ⟨fresh, ids, prepared, name, appended⟩ := prepareTask_spec step
    apply ih _ _ done
    · rw [ids, appended, map_append, reverse_append, same, map_singleton, name]
      rfl
    rw [ids]
    exact nodup_cons.2 ⟨fresh, distinct⟩

theorem nodup_of_prepare {tasks : List CollaborationTask} {prepared : List PreparedTask}
    (accepted : prepare limits host tasks = .ok prepared) : (prepared.map (·.taskId)).Nodup := by
  unfold prepare at accepted
  split at accepted
  · cases accepted
  split at accepted
  · cases accepted
  split at accepted
  · cases accepted
  rename_i state done
  split at accepted
  · cases accepted
  split at accepted
  · cases accepted
  cases accepted
  exact prepareTasks_nodup rfl nodup_nil done

variable {phases : List (CollaborationTaskId × ℕ)}

theorem checkParents_eq_ok_iff {phase : ℕ}
    {parents seen : List CollaborationTaskId} : checkParents phases phase parents seen = .ok () ↔
      (∀ parent ∈ parents, ∃ parentPhase, lastValue phases parent = some parentPhase ∧
        parentPhase ≤ phase) ∧ parents.Nodup ∧ ∀ parent ∈ parents, parent ∉ seen := by
  induction parents generalizing seen with
  | nil => simp [checkParents]
  | cons parent rest ih =>
    rw [checkParents]
    cases found : lastValue phases parent with
    | none =>
      simp only [reduceCtorEq, false_iff, not_and]
      intro known
      obtain ⟨_, present, _⟩ := known parent mem_cons_self
      rw [found] at present
      cases present
    | some parentPhase =>
      dsimp only
      by_cases repeated : parent ∈ seen
      · rw [if_pos repeated]
        simp only [reduceCtorEq, false_iff, not_and]
        exact fun _ _ fresh => absurd repeated (fresh parent mem_cons_self)
      rw [if_neg repeated]
      by_cases later : parentPhase > phase
      · rw [if_pos later]
        simp only [reduceCtorEq, false_iff, not_and]
        intro known
        obtain ⟨_, present, bound⟩ := known parent mem_cons_self
        rw [found, Option.some.injEq] at present
        omega
      rw [if_neg later, ih]
      constructor
      · rintro ⟨known, distinct, fresh⟩
        refine ⟨?_, ?_, ?_⟩
        · intro other member
          rcases mem_cons.1 member with rfl | inside
          · exact ⟨parentPhase, found, Nat.le_of_not_lt later⟩
          exact known other inside
        · rw [nodup_cons]
          exact ⟨fun again => fresh parent again mem_cons_self, distinct⟩
        intro other member
        rcases mem_cons.1 member with rfl | inside
        · exact repeated
        exact fun old => fresh other inside (mem_cons_of_mem _ old)
      rintro ⟨known, distinct, fresh⟩
      rw [nodup_cons] at distinct
      refine ⟨fun other inside => known other (mem_cons_of_mem _ inside), distinct.2, ?_⟩
      intro other inside old
      rcases mem_cons.1 old with rfl | older
      · exact distinct.1 inside
      exact fresh other (mem_cons_of_mem _ inside) older

theorem checkEntries_eq_ok_iff {entries : List (CollaborationTaskId × List CollaborationTaskId)} :
    checkEntries phases entries = .ok () ↔
      ∀ entry ∈ entries, ∃ phase, lastValue phases entry.1 = some phase ∧
        checkParents phases phase entry.2 [] = .ok () := by
  induction entries with
  | nil => simp [checkEntries]
  | cons entry rest ih =>
    obtain ⟨task, parents⟩ := entry
    rw [checkEntries, forall_mem_cons]
    cases found : lastValue phases task with
    | none => simp
    | some phase =>
      simp only [Option.some.injEq, exists_eq_left']
      cases checked : checkParents phases phase parents [] with
      | error error => simp
      | ok done => simp [ih]

/-- The first task is a prerequisite of the second. -/
def Requires (dependencies : Dependencies) (parent task : CollaborationTaskId) : Prop :=
  parent ∈ parentsOf dependencies task

variable {dependencies : Dependencies} {remaining : List CollaborationTaskId}
  {task : CollaborationTaskId}

theorem mem_readyTasks : task ∈ readyTasks dependencies remaining ↔
      task ∈ remaining ∧ ∀ parent, Requires dependencies parent task → parent ∉ remaining := by
  simp only [readyTasks, mem_filter, all_eq_true, decide_eq_true_eq, Requires]

theorem removeReady_ne_ok_of_closed (closed : CollaborationTaskId → Prop)
    (nonempty : ∃ task, closed task) (inside : ∀ task, closed task → task ∈ remaining)
    (required : ∀ task, closed task → ∃ parent, closed parent ∧ Requires dependencies parent task) :
    removeReady dependencies remaining ≠ .ok () := by
  induction remaining using removeReady.induct dependencies with
  | case1 =>
    obtain ⟨task, member⟩ := nonempty
    exact absurd (inside task member) not_mem_nil
  | case2 remaining _ stuck =>
    rw [removeReady, if_neg ‹_›, if_pos stuck]
    simp
  | case3 remaining _ some_ready ih =>
    rw [removeReady, if_neg ‹_›, if_neg some_ready]
    apply ih
    intro task member
    rw [removeTasks, mem_filter, decide_eq_true_eq, mem_readyTasks]
    refine ⟨inside task member, fun ready => ?_⟩
    obtain ⟨parent, also, edge⟩ := required task member
    exact ready.2 parent edge (inside parent also)

theorem cyclic_of_removeReady_ne_ok (failed : removeReady dependencies remaining ≠ .ok ()) :
    Acyclic.Cyclic (Requires dependencies) := by
  induction remaining using removeReady.induct dependencies with
  | case1 =>
    rw [removeReady, if_pos rfl] at failed
    exact absurd rfl failed
  | case2 remaining nonempty stuck =>
    apply Acyclic.cyclic_of_no_minimal nonempty
    intro task member
    by_contra free
    push Not at free
    have ready : task ∈ readyTasks dependencies remaining :=
      mem_readyTasks.2 ⟨member, fun parent edge inside => free parent inside edge⟩
    rw [stuck] at ready
    cases ready
  | case3 remaining nonempty some_ready ih =>
    rw [removeReady, if_neg nonempty, if_neg some_ready] at failed
    exact ih failed

/-! ### Accepted dependencies -/

/-- Some task has an unknown or repeated prerequisite or one in a later phase, or there is a cycle. -/
def Faulty (tasks : List PreparedTask) (dependencies : Dependencies) : Prop :=
  (∃ task ∈ tasks, ∃ parent, Requires dependencies parent task.taskId ∧
    parent ∉ tasks.map (·.taskId)) ∨
  (∃ task ∈ tasks, ¬ (parentsOf dependencies task.taskId).Nodup) ∨
  (∃ task ∈ tasks, ∃ parent ∈ tasks, Requires dependencies parent.taskId task.taskId ∧
    task.phase < parent.phase) ∨
  Acyclic.Cyclic (Requires dependencies)

/-- The dependency map has an entry for a task outside the plan. -/
def ForeignEntry (tasks : List PreparedTask) (dependencies : Dependencies) : Prop :=
  ∃ task parents, dependencies[task]? = some parents ∧ task ∉ tasks.map (·.taskId)

/-- What validation establishes. -/
structure Sound (tasks : List PreparedTask) (dependencies : Dependencies) : Prop where
  domestic : ∀ task parents, dependencies[task]? = some parents → task ∈ tasks.map (·.taskId)
  known : ∀ task ∈ tasks, ∀ parent, Requires dependencies parent task.taskId →
    parent ∈ tasks.map (·.taskId)
  distinct : ∀ task ∈ tasks, (parentsOf dependencies task.taskId).Nodup
  phases : ∀ task ∈ tasks, ∀ parent ∈ tasks, Requires dependencies parent.taskId task.taskId →
    parent.phase ≤ task.phase
  acyclic : ¬ Acyclic.Cyclic (Requires dependencies)

variable {tasks : List PreparedTask}

theorem sound_iff :
    Sound tasks dependencies ↔ ¬ (Faulty tasks dependencies ∨ ForeignEntry tasks dependencies) := by
  constructor
  · rintro sound ((⟨task, member, parent, edge, unknown⟩ | ⟨task, member, again⟩ |
      ⟨task, member, parent, also, edge, later⟩ | cyclic) | ⟨task, parents, entry, foreign⟩)
    · exact unknown (sound.known task member parent edge)
    · exact again (sound.distinct task member)
    · exact absurd (sound.phases task member parent also edge) (Nat.not_le.2 later)
    · exact sound.acyclic cyclic
    · exact foreign (sound.domestic task parents entry)
  intro accepted
  simp only [Faulty, ForeignEntry, not_or, not_exists, not_and, not_not, not_lt] at accepted
  obtain ⟨⟨known, distinct, phases, acyclic⟩, domestic⟩ := accepted
  exact
    { domestic := domestic
      known := known
      distinct := distinct
      phases := phases
      acyclic := acyclic }

theorem taskPhases_eq_some_iff
    (distinct : (tasks.map (·.taskId)).Nodup) {id : CollaborationTaskId} {phase : ℕ} :
    lastValue (taskPhases tasks) id = some phase ↔
      ∃ task ∈ tasks, task.taskId = id ∧ task.phase = phase := by
  have keys : ((taskPhases tasks).map Prod.fst).Nodup := by
    rwa [taskPhases, map_map]
  constructor
  · intro found
    obtain ⟨task, member, equal⟩ := mem_map.1 (mem_of_lastValue_eq_some found)
    simp only [Prod.mk.injEq] at equal
    exact ⟨task, member, equal⟩
  rintro ⟨task, member, rfl, rfl⟩
  apply lastValue_eq_some_of_mem keys
  exact mem_map_of_mem (f := fun task : PreparedTask => (task.taskId, task.phase)) member

theorem entry_of_requires {parent : CollaborationTaskId}
    (edge : Requires dependencies parent task) :
    ∃ parents, dependencies[task]? = some parents ∧ parent ∈ parents := by
  rw [Requires, parentsOf] at edge
  cases found : dependencies[task]? with
  | none =>
    rw [found] at edge
    cases edge
  | some parents =>
    rw [found] at edge
    exact ⟨parents, rfl, edge⟩

theorem parentsOf_of_entry
    {parents : List CollaborationTaskId} (entry : dependencies[task]? = some parents) :
    parentsOf dependencies task = parents := by
  rw [parentsOf, entry, Option.getD_some]

theorem checkEntries_taskPhases_iff (dependencies : Dependencies)
    (unique : (tasks.map (·.taskId)).Nodup) :
    checkEntries (taskPhases tasks) dependencies.toList = .ok () ↔
      (∀ task parents, dependencies[task]? = some parents → task ∈ tasks.map (·.taskId)) ∧
      (∀ task ∈ tasks, ∀ parent, Requires dependencies parent task.taskId →
        parent ∈ tasks.map (·.taskId)) ∧
      (∀ task ∈ tasks, (parentsOf dependencies task.taskId).Nodup) ∧
      ∀ task ∈ tasks, ∀ parent ∈ tasks, Requires dependencies parent.taskId task.taskId →
        parent.phase ≤ task.phase := by
  rw [checkEntries_eq_ok_iff]
  constructor
  · intro checked
    have entry : ∀ task ∈ tasks, ∀ parents, dependencies[task.taskId]? = some parents →
        (∀ parent ∈ parents, ∃ other ∈ tasks, other.taskId = parent ∧
          other.phase ≤ task.phase) ∧ parents.Nodup := by
      intro task member parents found
      obtain ⟨phase, known, parentsChecked⟩ := checked (task.taskId, parents) (MapRows.mem_toList.2 found)
      obtain ⟨other, also, sameId, rfl⟩ := (taskPhases_eq_some_iff unique).1 known
      obtain rfl := inj_on_of_nodup_map unique also member sameId
      obtain ⟨present, distinct, _⟩ := checkParents_eq_ok_iff.1 parentsChecked
      refine ⟨fun parent inside => ?_, distinct⟩
      obtain ⟨parentPhase, found', bound⟩ := present parent inside
      obtain ⟨parentTask, inPlan, name, rfl⟩ := (taskPhases_eq_some_iff unique).1 found'
      exact ⟨parentTask, inPlan, name, bound⟩
    refine ⟨?_, ?_, ?_, ?_⟩
    · intro task parents found
      obtain ⟨phase, known, _⟩ := checked (task, parents) (MapRows.mem_toList.2 found)
      obtain ⟨other, also, rfl, _⟩ := (taskPhases_eq_some_iff unique).1 known
      exact mem_map_of_mem also
    · intro task member parent edge
      obtain ⟨parents, found, inside⟩ := entry_of_requires edge
      obtain ⟨other, also, rfl, _⟩ := (entry task member parents found).1 parent inside
      exact mem_map_of_mem also
    · intro task member
      cases found : dependencies[task.taskId]? with
      | none =>
        rw [parentsOf, found]
        exact nodup_nil
      | some parents =>
        rw [parentsOf_of_entry found]
        exact (entry task member parents found).2
    intro task member parent also edge
    obtain ⟨parents, found, inside⟩ := entry_of_requires edge
    obtain ⟨other, inPlan, name, bound⟩ := (entry task member parents found).1 _ inside
    obtain rfl := inj_on_of_nodup_map unique inPlan also name
    exact bound
  rintro ⟨domestic, known, distinct, phases⟩ ⟨id, parents⟩ member
  have found := MapRows.mem_toList.1 member
  obtain ⟨task, inPlan, rfl⟩ := mem_map.1 (domestic id parents found)
  have same := parentsOf_of_entry found
  refine ⟨task.phase, (taskPhases_eq_some_iff unique).2 ⟨task, inPlan, rfl, rfl⟩, ?_⟩
  rw [checkParents_eq_ok_iff]
  refine ⟨fun parent inside => ?_, same ▸ distinct task inPlan, fun parent _ => not_mem_nil⟩
  have edge : Requires dependencies parent task.taskId := by
    rwa [Requires, same]
  obtain ⟨parentTask, also, rfl⟩ := mem_map.1 (known task inPlan parent edge)
  exact ⟨parentTask.phase, (taskPhases_eq_some_iff unique).2 ⟨parentTask, also, rfl, rfl⟩,
    phases task inPlan parentTask also edge⟩

theorem validateDependencies_eq_ok_iff (dependencies : Dependencies)
    (unique : (tasks.map (·.taskId)).Nodup) :
    validateDependencies tasks dependencies = .ok () ↔ Sound tasks dependencies := by
  have entries := checkEntries_taskPhases_iff dependencies unique
  unfold validateDependencies
  cases checked : checkEntries (taskPhases tasks) dependencies.toList with
  | error error =>
    rw [checked] at entries
    simp only [reduceCtorEq, false_iff] at entries ⊢
    exact fun sound => entries ⟨sound.domestic, sound.known, sound.distinct, sound.phases⟩
  | ok done =>
    obtain ⟨domestic, known, distinct, phases⟩ := entries.1 checked
    dsimp only
    constructor
    · intro removed
      refine ⟨domestic, known, distinct, phases, fun cyclic => ?_⟩
      obtain ⟨start, loop⟩ := cyclic
      have onCycle : Acyclic.OnCycle (Requires dependencies) start start := ⟨loop, loop⟩
      refine removeReady_ne_ok_of_closed (Acyclic.OnCycle (Requires dependencies) start)
        ⟨start, onCycle⟩ ?_ ?_ removed
      · intro task on
        obtain ⟨parent, _, edge⟩ := Acyclic.onCycle_predecessor on
        obtain ⟨parents, found, _⟩ := entry_of_requires edge
        exact domestic task parents found
      intro task on
      obtain ⟨parent, also, edge⟩ := Acyclic.onCycle_predecessor on
      exact ⟨parent, also, edge⟩
    intro sound
    by_contra failed
    exact sound.acyclic (cyclic_of_removeReady_ne_ok failed)

theorem validateDependencies_error_iff (dependencies : Dependencies)
    (unique : (tasks.map (·.taskId)).Nodup) :
    (∃ error, validateDependencies tasks dependencies = .error error) ↔
      Faulty tasks dependencies ∨ ForeignEntry tasks dependencies := by
  have accepted := (validateDependencies_eq_ok_iff dependencies unique).trans sound_iff
  cases checked : validateDependencies tasks dependencies with
  | error error =>
    rw [checked] at accepted
    simp only [reduceCtorEq, false_iff, not_not] at accepted
    exact iff_of_true ⟨error, rfl⟩ accepted
  | ok done =>
    refine iff_of_false ?_ (accepted.1 checked)
    rintro ⟨error, failed⟩
    cases failed

end Wts.Collaboration
