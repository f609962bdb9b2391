/-
Module: Wts.Proofs.WorkSetPlan
Purpose: The prerequisites of an accepted work set are known tasks without a cycle, and `ancestor` is the
  transitive closure of the prerequisites.
Trusted boundary: none
Main exports: AcceptedWorkSet, ancestor_iff
-/
import Wts.App.WorkSets
import Wts.Library.Acyclic

namespace Wts.WorkSets

open Checkpoint Acyclic Relation List AgentWorkItemRequest

theorem validTasks_nodup {kind : AgentWorkSetKind} {ids : List Uuid}
    {tasks : List AgentWorkItemRequest} (valid : validTasks kind ids tasks = true) :
    (tasks.map taskId).Nodup ∧ ∀ task ∈ tasks, task.taskId ∉ ids := by
  induction tasks generalizing ids with
  | nil => exact ⟨nodup_nil, fun task member => by cases member⟩
  | cons task rest ih =>
    rw [validTasks, Bool.and_eq_true] at valid
    obtain ⟨here, later⟩ := valid
    obtain ⟨nodup, fresh⟩ := ih later
    have new : task.taskId ∉ ids := by
      simp only [validTask, Bool.and_eq_true, decide_eq_true_eq] at here
      exact here.1.1.1.1.1.1.1.1.1.2
    constructor
    · rw [map_cons, nodup_cons]
      refine ⟨?_, nodup⟩
      intro repeated
      obtain ⟨other, inRest, same⟩ := mem_map.1 repeated
      apply fresh other inRest
      rw [same]
      exact mem_cons_self
    intro other member
    rcases mem_cons.1 member with equal | inRest
    · rw [equal]
      exact new
    exact fun inIds => fresh other inRest (mem_cons_of_mem _ inIds)

/-! ### The order of the tasks -/

/-- A task has a prerequisite. -/
def Requires (tasks : List AgentWorkItemRequest) (parent id : Uuid) : Prop :=
  ∃ task ∈ tasks, task.taskId = id ∧ parent ∈ task.dependsOn

section Order

variable {tasks : List AgentWorkItemRequest} {done : List Uuid}

/-- What the loops keep of the done tasks. -/
structure Admitted (tasks : List AgentWorkItemRequest) (done : List Uuid) : Prop where
  known : done ⊆ tasks.map AgentWorkItemRequest.taskId
  nodup : done.Nodup
  grounded : Grounded (Requires tasks) done

variable {task : AgentWorkItemRequest}

theorem Admitted.takeReady (nodupIds : (tasks.map taskId).Nodup)
    (admitted : Admitted tasks done) (member : task ∈ tasks) :
    Admitted tasks (takeReady done task) := by
  unfold WorkSets.takeReady
  split
  · rename_i ready
    by_cases present : task.taskId ∈ done
    · rw [insert_of_mem present]
      exact admitted
    rw [insert_of_not_mem present]
    constructor
    case known => exact cons_subset.2 ⟨mem_map_of_mem member, admitted.known⟩
    case nodup => exact nodup_cons.2 ⟨present, admitted.nodup⟩
    case grounded =>
      refine ⟨?_, admitted.grounded⟩
      intro parent ⟨other, otherMember, sameId, depends⟩
      have same : other = task := inj_on_of_nodup_map nodupIds otherMember member sameId
      rw [same] at depends
      exact of_decide_eq_true (all_eq_true.1 ready parent depends)
  exact admitted

theorem suffix_takeReady (done : List Uuid) (task : AgentWorkItemRequest) :
    done <:+ takeReady done task := by
  unfold takeReady
  split
  · by_cases present : task.taskId ∈ done
    · rw [insert_of_mem present]
    · rw [insert_of_not_mem present]
      exact suffix_cons _ _
  exact suffix_rfl

theorem suffix_foldl_takeReady (part : List AgentWorkItemRequest) (done : List Uuid) :
    done <:+ part.foldl takeReady done := by
  induction part generalizing done with
  | nil => exact suffix_rfl
  | cons task rest ih => exact (suffix_takeReady done task).trans (ih _)

variable {part : List AgentWorkItemRequest}

theorem Admitted.foldl_takeReady (nodupIds : (tasks.map taskId).Nodup)
    (admitted : Admitted tasks done) (inside : part ⊆ tasks) :
    Admitted tasks (part.foldl WorkSets.takeReady done) := by
  induction part generalizing done with
  | nil => exact admitted
  | cons task rest ih =>
    rw [cons_subset] at inside
    exact ih (admitted.takeReady nodupIds inside.1) inside.2

theorem mem_foldl_takeReady
    (member : task ∈ part) (ready : ∀ parent ∈ task.dependsOn, parent ∈ done) :
    task.taskId ∈ part.foldl takeReady done := by
  induction part generalizing done with
  | nil => cases member
  | cons first rest ih =>
    rcases mem_cons.1 member with isFirst | later
    · subst isFirst
      apply (suffix_foldl_takeReady rest _).subset
      unfold takeReady
      rw [if_pos]
      · exact mem_insert_self
      apply all_eq_true.2
      intro parent depends
      exact decide_eq_true (ready parent depends)
    apply ih later
    intro parent depends
    exact (suffix_takeReady done first).subset (ready parent depends)

theorem length_lt_foldl_takeReady (closed : ∀ task ∈ tasks, ∀ parent ∈ task.dependsOn,
      parent ∈ tasks.map taskId)
    (acyclic : ¬Cyclic (Requires tasks)) (left : ∃ task ∈ tasks, task.taskId ∉ done) :
    done.length < (tasks.foldl takeReady done).length := by
  have nonempty : (tasks.map taskId).filter (· ∉ done) ≠ [] := by
    obtain ⟨task, member, missing⟩ := left
    apply ne_nil_of_mem
    exact mem_filter.2 ⟨mem_map_of_mem member, decide_eq_true missing⟩
  obtain ⟨id, isLeft, minimal⟩ := exists_minimal nonempty acyclic
  obtain ⟨isTask, missing⟩ := mem_filter.1 isLeft
  obtain ⟨task, member, isId⟩ := mem_map.1 isTask
  have ready : ∀ parent ∈ task.dependsOn, parent ∈ done := by
    intro parent depends
    by_contra notDone
    apply minimal parent
    · exact mem_filter.2 ⟨closed task member parent depends, decide_eq_true notDone⟩
    exact ⟨task, member, isId, depends⟩
  have added := mem_foldl_takeReady member ready
  have suffix := suffix_foldl_takeReady tasks done
  apply lt_of_le_of_ne suffix.length_le
  intro same
  rw [← suffix.eq_of_length same, isId] at added
  exact of_decide_eq_true missing added

theorem Admitted.length_le (admitted : Admitted tasks done) : done.length ≤ tasks.length := by
  rw [← length_map taskId]
  exact (subperm_of_subset admitted.nodup admitted.known).length_le

theorem Admitted.all_done (admitted : Admitted tasks done) (full : done.length = tasks.length) :
    ∀ task ∈ tasks, task.taskId ∈ done := by
  intro task member
  have subperm := subperm_of_subset admitted.nodup admitted.known
  have perm := subperm.perm_of_length_le (by rw [length_map, full])
  exact perm.mem_iff.2 (mem_map_of_mem member)

variable {fuel : ℕ}

section

variable (nodupIds : (tasks.map AgentWorkItemRequest.taskId).Nodup)
include nodupIds

theorem order_of_ordered
    (admitted : Admitted tasks done) (isOrdered : ordered tasks fuel done = true) :
    ∃ order, Admitted tasks order ∧ ∀ task ∈ tasks, task.taskId ∈ order := by
  induction fuel generalizing done with
  | zero => cases isOrdered
  | succ fuel ih =>
    have next := admitted.foldl_takeReady nodupIds (List.Subset.refl tasks)
    rw [ordered] at isOrdered
    split at isOrdered
    · rename_i full
      exact ⟨_, next, next.all_done full⟩
    split at isOrdered
    · cases isOrdered
    exact ih next isOrdered

theorem ordered_of_acyclic (closed : ∀ task ∈ tasks, ∀ parent ∈ task.dependsOn,
      parent ∈ tasks.map taskId)
    (acyclic : ¬Cyclic (Requires tasks)) (admitted : Admitted tasks done)
    (enough : tasks.length < fuel + done.length) : ordered tasks fuel done = true := by
  induction fuel generalizing done with
  | zero =>
    rw [Nat.zero_add] at enough
    exact absurd admitted.length_le (Nat.not_le_of_lt enough)
  | succ fuel ih =>
    have next := admitted.foldl_takeReady nodupIds (List.Subset.refl tasks)
    rw [ordered]
    split
    · rfl
    rename_i more
    have left : ∃ task ∈ tasks, task.taskId ∉ done := by
      by_contra none
      push Not at none
      have inside : tasks.map taskId ⊆ done := by
        intro id member
        obtain ⟨task, isTask, isId⟩ := mem_map.1 member
        rw [← isId]
        exact none task isTask
      have all := (subperm_of_subset nodupIds inside).length_le
      rw [length_map] at all
      have grows := (suffix_foldl_takeReady tasks done).length_le
      exact more (le_antisymm next.length_le (all.trans grows))
    have grows := length_lt_foldl_takeReady closed acyclic left
    rw [if_neg grows.ne]
    apply ih next
    omega

theorem ordered_iff :
    ordered tasks (tasks.length + 1) [] = true ↔ (∀ task ∈ tasks, ∀ parent ∈ task.dependsOn,
        parent ∈ tasks.map taskId) ∧ ¬Cyclic (Requires tasks) := by
  have start : Admitted tasks [] := ⟨nil_subset _, nodup_nil, trivial⟩
  constructor
  · intro isOrdered
    obtain ⟨order, admitted, all⟩ := order_of_ordered nodupIds start isOrdered
    constructor
    · intro task member parent depends
      exact admitted.known (admitted.grounded.mem_of_rel (all task member)
        ⟨task, member, rfl, depends⟩)
    intro ⟨id, loop⟩
    obtain ⟨_, _, task, member, isId, _⟩ := TransGen.tail'_iff.1 loop
    have inOrder := all task member
    rw [isId] at inOrder
    exact admitted.grounded.not_transGen_self admitted.nodup inOrder loop
  intro ⟨closed, acyclic⟩
  apply ordered_of_acyclic nodupIds closed acyclic start
  exact Nat.lt_succ_self _

end

end Order

theorem validateRequest_eq_ok_iff {request : CreateAgentWorkSetRequest} :
    validateRequest request = .ok () ↔
      request.requestId ≠ 0 ∧ request.expectedAfterCheckpointId ≠ 0 ∧ request.tasks ≠ [] ∧
        request.tasks.length ≤ 8 ∧ validTasks request.kind [] request.tasks = true ∧
        (∀ task ∈ request.tasks, ∀ parent ∈ task.dependsOn, parent ∈ request.tasks.map taskId) ∧
        ¬Cyclic (Requires request.tasks) := by
  unfold validateRequest
  by_cases bounds : request.requestId = 0 ∨ request.expectedAfterCheckpointId = 0 ∨
      request.tasks = [] ∨ 8 < request.tasks.length
  · rw [if_pos bounds]
    constructor
    · intro accepted
      cases accepted
    intro ⟨id, checkpoint, nonempty, few, _⟩
    rcases bounds with zero | zero | none | many
    · exact absurd zero id
    · exact absurd zero checkpoint
    · exact absurd none nonempty
    exact absurd few (Nat.not_le_of_lt many)
  rw [if_neg bounds]
  push Not at bounds
  by_cases valid : validTasks request.kind [] request.tasks = true
  · rw [if_neg (not_not.2 valid)]
    have isOrdered := ordered_iff (validTasks_nodup valid).1
    constructor
    · intro accepted
      split at accepted
      · rename_i found
        obtain ⟨id, checkpoint, nonempty, few⟩ := bounds
        exact ⟨id, checkpoint, nonempty, few, valid, isOrdered.1 found⟩
      cases accepted
    intro ⟨_, _, _, _, _, plan⟩
    rw [if_pos (isOrdered.2 plan)]
  rw [if_pos valid]
  constructor
  · intro accepted
    cases accepted
  intro ⟨_, _, _, _, isValid, _⟩
  exact absurd isValid valid

/-- A stored work set that passes its check. -/
structure AcceptedWorkSet extends StoredWorkSet where
  accepted : checkSet view.workSetId toStoredWorkSet = true

/-- A task of a set has a prerequisite. -/
def DependsOn (tasks : List AgentWorkItem) (parent id : Uuid) : Prop :=
  ∃ task ∈ tasks, task.taskId = id ∧ parent ∈ task.dependsOn

theorem forall₂_of_zip {tasks : List AgentWorkItem} {requests : List AgentWorkItemRequest}
    (length : tasks.length = requests.length)
    (same : ((tasks.zip requests).all fun (task, request) => sameTask task request) = true) :
    List.Forall₂ (fun task request => task.taskId = request.taskId ∧
      task.dependsOn = request.dependsOn) tasks requests := by
  apply forall₂_iff_zip.2
  refine ⟨length, ?_⟩
  intro task request member
  have here := all_eq_true.1 same _ member
  simp only [sameTask, Bool.and_eq_true, decide_eq_true_eq] at here
  exact ⟨here.1.1.1.1.1, here.1.1.2⟩

namespace AcceptedWorkSet

variable (set : AcceptedWorkSet)

theorem valid : validateRequest set.request = .ok () := by
  have accepted := set.accepted
  simp only [checkSet, Bool.and_eq_true, decide_eq_true_eq] at accepted
  cases found : validateRequest set.request with
  | ok _ => rfl
  | error error =>
    rw [found] at accepted
    cases accepted.1.1.1.1.1.1.1.1.1.1.1.1

theorem sameTasks : List.Forall₂ (fun task request => task.taskId = request.taskId ∧
    task.dependsOn = request.dependsOn) set.view.tasks set.request.tasks := by
  have accepted := set.accepted
  simp only [checkSet, Bool.and_eq_true, decide_eq_true_eq] at accepted
  exact forall₂_of_zip accepted.1.1.1.1.1.1.1.1.2 accepted.1.2

theorem map_taskId : set.view.tasks.map AgentWorkItem.taskId = set.request.tasks.map taskId := by
  have same := set.sameTasks
  generalize set.view.tasks = tasks at same
  generalize set.request.tasks = requests at same
  induction same with
  | nil => rfl
  | cons here _ ih => rw [map_cons, map_cons, here.1, ih]

theorem nodup : (set.view.tasks.map AgentWorkItem.taskId).Nodup := by
  rw [set.map_taskId]
  obtain ⟨_, _, _, _, valid, _⟩ := validateRequest_eq_ok_iff.1 set.valid
  exact (validTasks_nodup valid).1

theorem eq_of_taskId {first second : AgentWorkItem} (left : first ∈ set.view.tasks)
    (right : second ∈ set.view.tasks) (same : first.taskId = second.taskId) : first = second :=
  inj_on_of_nodup_map set.nodup left right same

variable {parent id : Uuid}

theorem requires_of_dependsOn (depends : DependsOn set.view.tasks parent id) :
    Requires set.request.tasks parent id := by
  obtain ⟨task, member, isId, parentOf⟩ := depends
  have same := set.sameTasks
  generalize set.view.tasks = tasks at same member
  generalize set.request.tasks = requests at same ⊢
  induction same with
  | nil => cases member
  | cons here _ ih =>
    rcases mem_cons.1 member with equal | later
    · subst equal
      refine ⟨_, mem_cons_self, here.1.symm.trans isId, ?_⟩
      rw [← here.2]
      exact parentOf
    obtain ⟨request, inRest, requestId, requires⟩ := ih later
    exact ⟨request, mem_cons_of_mem _ inRest, requestId, requires⟩

theorem exists_order : ∃ order : List Uuid, order.length ≤ set.view.tasks.length ∧
    Grounded (DependsOn set.view.tasks) order ∧ ∀ task ∈ set.view.tasks, task.taskId ∈ order := by
  obtain ⟨_, _, _, _, valid, plan⟩ := validateRequest_eq_ok_iff.1 set.valid
  have nodupIds := (validTasks_nodup valid).1
  obtain ⟨order, admitted, all⟩ := order_of_ordered nodupIds
    ⟨nil_subset _, nodup_nil, trivial⟩ ((ordered_iff nodupIds).2 plan)
  refine ⟨order, ?_, admitted.grounded.mono fun parent id => set.requires_of_dependsOn, ?_⟩
  · have sameLength := congrArg List.length set.map_taskId
    rw [length_map, length_map] at sameLength
    rw [sameLength]
    exact admitted.length_le
  intro task member
  have isRequested : task.taskId ∈ set.request.tasks.map taskId := by
    rw [← set.map_taskId]
    exact mem_map_of_mem member
  obtain ⟨request, inRequest, same⟩ := mem_map.1 isRequested
  rw [← same]
  exact all request inRequest

theorem find?_of_mem {task : AgentWorkItem} (member : task ∈ set.view.tasks) :
    (set.view.tasks.find? fun other => other.taskId = task.taskId) = some task := by
  cases found : set.view.tasks.find? fun other => other.taskId = task.taskId with
  | none =>
    have missing := find?_eq_none.1 found task member
    exact absurd (decide_eq_true rfl) missing
  | some other =>
    have same : other.taskId = task.taskId := of_decide_eq_true (find?_some (p := fun
      (other : AgentWorkItem) => decide (other.taskId = task.taskId)) found)
    rw [set.eq_of_taskId (mem_of_find?_eq_some found) member same]

theorem ancestorWithin_iff {order : List Uuid} (grounded : Grounded (DependsOn set.view.tasks) order)
    (member : id ∈ order) {depth : ℕ} (deep : order.length ≤ depth) (ancestor : Uuid) :
    ancestorWithin set.view.tasks ancestor depth id = true ↔
      TransGen (DependsOn set.view.tasks) ancestor id := by
  induction order generalizing depth id with
  | nil => cases member
  | cons first rest ih =>
    rcases mem_cons.1 member with isFirst | later
    · subst isFirst
      cases depth with
      | zero => cases deep
      | succ depth =>
        have below : rest.length ≤ depth := Nat.le_of_succ_le_succ deep
        have inner : ∀ parent, DependsOn set.view.tasks parent id →
            (ancestorWithin set.view.tasks ancestor depth parent = true ↔
              TransGen (DependsOn set.view.tasks) ancestor parent) :=
          fun parent edge => ih grounded.2 (grounded.1 parent edge) below
        rw [ancestorWithin, Option.any_eq_true]
        constructor
        · intro ⟨task, found, either⟩
          have isTask := mem_of_find?_eq_some found
          have isId : task.taskId = id := by simpa using find?_some found
          rcases Bool.or_eq_true_iff.1 either with here | above
          · exact .single ⟨task, isTask, isId, contains_iff_mem.1 here⟩
          obtain ⟨parent, depends, path⟩ := any_eq_true.1 above
          have edge : DependsOn set.view.tasks parent id := ⟨task, isTask, isId, depends⟩
          exact ((inner parent edge).1 path).tail edge
        intro path
        obtain ⟨parent, above, edge⟩ := TransGen.tail'_iff.1 path
        obtain ⟨task, isTask, isId, depends⟩ := edge
        refine ⟨task, ?_, ?_⟩
        · rw [← isId]
          exact set.find?_of_mem isTask
        apply Bool.or_eq_true_iff.2
        rcases reflTransGen_iff_eq_or_transGen.1 above with equal | above
        · left
          rw [← equal]
          exact contains_iff_mem.2 depends
        right
        apply any_eq_true.2
        exact ⟨parent, depends, (inner parent ⟨task, isTask, isId, depends⟩).2 above⟩
    exact ih grounded.2 later (Nat.le_of_succ_le deep)

theorem ancestor_iff {ancestor : Uuid} (known : ∃ task ∈ set.view.tasks, task.taskId = id) :
    WorkSets.ancestor set.view.tasks ancestor id = true ↔
      TransGen (DependsOn set.view.tasks) ancestor id := by
  obtain ⟨order, short, grounded, all⟩ := set.exists_order
  obtain ⟨task, member, isId⟩ := known
  subst isId
  exact set.ancestorWithin_iff grounded (all task member) short ancestor

theorem known_of_dependsOn (depends : DependsOn set.view.tasks parent id) :
    ∃ task ∈ set.view.tasks, task.taskId = parent := by
  obtain ⟨request, member, requestId, requires⟩ := set.requires_of_dependsOn depends
  obtain ⟨_, _, _, _, _, closed, _⟩ := validateRequest_eq_ok_iff.1 set.valid
  have isKnown := closed request member parent requires
  rw [← set.map_taskId] at isKnown
  exact mem_map.1 isKnown

end AcceptedWorkSet

end Wts.WorkSets
