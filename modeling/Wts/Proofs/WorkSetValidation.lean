/-
Module: Wts.Proofs.WorkSetValidation
Purpose: The loop of `validate_request` and the recursion of `ancestor` end, with the answers that
  the prerequisites of the tasks give.
Trusted boundary: none
Main exports: validation_decides
-/
import Wts.Proofs.WorkSetPlan

namespace Wts.WorkSets

open Checkpoint Acyclic Relation List

section Loop

variable {tasks : List AgentWorkItemRequest} {done : List Uuid}

theorem ordered_of_orderPasses {passes : ℕ} {verdict : Bool}
    (ended : orderPasses tasks passes done = some verdict) :
    ordered tasks passes done = verdict := by
  induction passes generalizing done with
  | zero => cases ended
  | succ passes ih =>
    rw [orderPasses] at ended
    rw [ordered]
    split at ended
    · rename_i full
      rw [if_pos full]
      exact Option.some.inj ended
    rename_i more
    rw [if_neg more]
    split at ended
    · rename_i stuck
      rw [if_pos stuck]
      exact Option.some.inj ended
    rename_i grows
    rw [if_neg grows]
    exact ih ended

theorem orderPasses_mono {passes more : ℕ} (fewer : passes ≤ more) {verdict : Bool}
    (ended : orderPasses tasks passes done = some verdict) :
    orderPasses tasks more done = some verdict := by
  induction passes generalizing done more with
  | zero => cases ended
  | succ passes ih =>
    cases more with
    | zero => cases fewer
    | succ more =>
      rw [orderPasses] at ended ⊢
      split at ended
      · rename_i full
        rw [if_pos full]
        exact ended
      rename_i left
      rw [if_neg left]
      split at ended
      · rename_i stuck
        rw [if_pos stuck]
        exact ended
      rename_i grows
      rw [if_neg grows]
      exact ih (Nat.le_of_succ_le_succ fewer) ended

theorem exists_verdict (nodupIds : (tasks.map AgentWorkItemRequest.taskId).Nodup)
    (admitted : Admitted tasks done) {passes : ℕ} (enough : tasks.length < passes + done.length) :
    ∃ verdict, orderPasses tasks passes done = some verdict := by
  induction passes generalizing done with
  | zero =>
    rw [Nat.zero_add] at enough
    exact absurd admitted.length_le (Nat.not_le_of_lt enough)
  | succ passes ih =>
    have next := admitted.foldl_takeReady nodupIds (List.Subset.refl tasks)
    rw [orderPasses]
    split
    · exact ⟨true, rfl⟩
    split
    · exact ⟨false, rfl⟩
    rename_i grows
    have longer := (suffix_foldl_takeReady tasks done).length_le
    apply ih next
    omega

theorem orderPasses_eq (nodupIds : (tasks.map AgentWorkItemRequest.taskId).Nodup) {passes : ℕ}
    (enough : tasks.length < passes) :
    orderPasses tasks passes [] = some (ordered tasks (tasks.length + 1) []) := by
  have start : Admitted tasks [] := ⟨nil_subset _, nodup_nil, trivial⟩
  have passes : tasks.length < (tasks.length + 1) + ([] : List Uuid).length := Nat.lt_succ_self _
  obtain ⟨verdict, ended⟩ := exists_verdict nodupIds start passes
  rw [ordered_of_orderPasses ended]
  exact orderPasses_mono enough ended

end Loop

/-! ### The recursion of `ancestor` -/

theorem anyM_eq_some {α : Type} {step : α → Option Bool} {answer : α → Bool} {items : List α}
    (answers : ∀ item ∈ items, step item = some (answer item)) :
    items.anyM step = some (items.any answer) := by
  induction items with
  | nil => rfl
  | cons item rest ih =>
    rw [anyM, answers item mem_cons_self, any_cons]
    cases answer item with
    | true => rfl
    | false => exact ih fun later member => answers later (mem_cons_of_mem item member)

namespace AcceptedWorkSet

variable (set : AcceptedWorkSet)

theorem tasks_ne_nil : set.view.tasks ≠ [] := by
  intro none
  obtain ⟨_, _, some, _⟩ := validateRequest_eq_ok_iff.1 set.valid
  have same := set.sameTasks.length_eq
  rw [none] at same
  exact some (eq_nil_of_length_eq_zero same.symm)

theorem ancestorCall_of_grounded {order : List Uuid}
    (grounded : Grounded (DependsOn set.view.tasks) order) {id : Uuid} (member : id ∈ order)
    {depth : ℕ} (deep : order.length ≤ depth) (ancestor : Uuid) :
    ancestorCall set.view.tasks ancestor depth id =
      some (ancestorWithin set.view.tasks ancestor depth id) := by
  induction order generalizing depth id with
  | nil => cases member
  | cons first rest ih =>
    rcases mem_cons.1 member with isFirst | later
    · subst isFirst
      cases depth with
      | zero => cases deep
      | succ depth =>
        have below : rest.length ≤ depth := Nat.le_of_succ_le_succ deep
        rw [ancestorCall, ancestorWithin]
        cases found : set.view.tasks.find? fun task => task.taskId = id with
        | none => rfl
        | some task =>
          have isTask := mem_of_find?_eq_some found
          have isId : task.taskId = id := by simpa using find?_some found
          have inner : ∀ parent ∈ task.dependsOn,
              ancestorCall set.view.tasks ancestor depth parent =
                some (ancestorWithin set.view.tasks ancestor depth parent) := by
            intro parent depends
            exact ih grounded.2 (grounded.1 parent ⟨task, isTask, isId, depends⟩) below
          dsimp only [Option.any_some]
          cases task.dependsOn.contains ancestor with
          | true => rfl
          | false =>
            rw [if_neg Bool.false_ne_true, Bool.false_or]
            exact anyM_eq_some inner
    exact ih grounded.2 later (Nat.le_of_succ_le deep)

theorem ancestorCall_eq {depth : ℕ} (deep : set.view.tasks.length ≤ depth) (ancestor id : Uuid) :
    ∃ found, ancestorCall set.view.tasks ancestor depth id = some found ∧
      (found = true ↔ TransGen (DependsOn set.view.tasks) ancestor id) := by
  obtain ⟨order, short, grounded, all⟩ := set.exists_order
  by_cases known : ∃ task ∈ set.view.tasks, task.taskId = id
  · obtain ⟨task, member, isId⟩ := known
    subst isId
    exact ⟨_, set.ancestorCall_of_grounded grounded (all task member) (short.trans deep) ancestor,
      set.ancestorWithin_iff grounded (all task member) (short.trans deep) ancestor⟩
  have unknown : (set.view.tasks.find? fun task => task.taskId = id) = none := by
    apply find?_eq_none.2
    intro task member isId
    exact known ⟨task, member, of_decide_eq_true isId⟩
  refine ⟨false, ?_, ?_⟩
  · cases depth with
    | zero => exact absurd (eq_nil_of_length_eq_zero (Nat.le_zero.1 deep)) set.tasks_ne_nil
    | succ depth => rw [ancestorCall, unknown]
  constructor
  · intro impossible
    cases impossible
  intro path
  obtain ⟨_, _, task, member, isId, _⟩ := TransGen.tail'_iff.1 path
  exact absurd ⟨task, member, isId⟩ known

end AcceptedWorkSet

/-- On checked tasks the loop of `validate_request` ends, and accepts exactly the known
prerequisites without a cycle. -/
theorem validation_decides :
    (∀ request : CreateAgentWorkSetRequest, validTasks request.kind [] request.tasks = true →
      ∃ verdict, (∀ passes, request.tasks.length < passes →
          orderPasses request.tasks passes [] = some verdict) ∧ (verdict = true ↔
          (∀ task ∈ request.tasks, ∀ parent ∈ task.dependsOn,
            parent ∈ request.tasks.map AgentWorkItemRequest.taskId) ∧
          ¬Cyclic (Requires request.tasks)) ∧ (validateRequest request = .ok () ↔
          request.requestId ≠ 0 ∧ request.expectedAfterCheckpointId ≠ 0 ∧ request.tasks ≠ [] ∧
            request.tasks.length ≤ 8 ∧ verdict = true)) ∧
    ∀ (set : AcceptedWorkSet) (ancestor id : Uuid), ∃ found,
      (∀ depth, set.view.tasks.length ≤ depth →
        ancestorCall set.view.tasks ancestor depth id = some found) ∧
      (found = true ↔ TransGen (DependsOn set.view.tasks) ancestor id) := by
  constructor
  · intro request checked
    have nodupIds := (validTasks_nodup checked).1
    have plan := ordered_iff nodupIds
    refine ⟨_, fun passes enough => orderPasses_eq nodupIds enough, plan, ?_⟩
    rw [validateRequest_eq_ok_iff, plan]
    constructor
    · intro ⟨id, checkpoint, nonempty, few, _, closed, acyclic⟩
      exact ⟨id, checkpoint, nonempty, few, closed, acyclic⟩
    · intro ⟨id, checkpoint, nonempty, few, closed, acyclic⟩
      exact ⟨id, checkpoint, nonempty, few, checked, closed, acyclic⟩
  · intro set ancestor id
    obtain ⟨found, returns, isFound⟩ := set.ancestorCall_eq (le_refl _) ancestor id
    refine ⟨found, ?_, isFound⟩
    intro depth deep
    obtain ⟨other, returnsOther, isOther⟩ := set.ancestorCall_eq deep ancestor id
    rw [returnsOther, Bool.eq_iff_iff.2 (isOther.trans isFound.symm)]

def sampleCycle : CreateAgentWorkSetRequest where
  requestId := 9
  expectedAfterCheckpointId := 10
  kind := .tasks
  tasks :=
    [{ taskId := 1, title := "Edit the notes", prompt := "Edit the notes.", dependsOn := [2] },
     { taskId := 2, title := "Check the notes", prompt := "Check the notes.", dependsOn := [1] }]

/-- The loop ends on the cycle, and the request is refused. -/
theorem validation_decides_cycle :
    ∃ verdict, (∀ passes, 2 < passes → orderPasses sampleCycle.tasks passes [] = some verdict) ∧
      verdict = false := by
  obtain ⟨verdict, ends, isVerdict, _⟩ := validation_decides.1 sampleCycle (by decide +kernel)
  refine ⟨verdict, ends, ?_⟩
  have stuck : orderPasses sampleCycle.tasks 3 [] = some false := by decide +kernel
  rw [ends 3 (Nat.lt_succ_self 2)] at stuck
  exact Option.some.inj stuck

end Wts.WorkSets
