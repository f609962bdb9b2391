/-
Module: Wts.Library.ReadyOrder
Purpose: Orders of finitely many nodes that take the least ready node at every turn; a node is ready
  once all its predecessors are placed.
-/
import Wts.Library.Acyclic

namespace Wts.ReadyOrder

open Acyclic List Relation

/-- Finitely many nodes, each with its predecessors. -/
structure Graph (α : Type) where
  nodes : Finset α
  predecessors : α → Finset α
  closed : ∀ a ∈ nodes, predecessors a ⊆ nodes

namespace Graph

variable {α : Type} (graph : Graph α)

/-- A node has a predecessor. -/
def Edge (b a : α) : Prop :=
  a ∈ graph.nodes ∧ b ∈ graph.predecessors a

/-- A node that is not placed and whose predecessors all are. -/
structure Ready (placed : Finset α) (a : α) : Prop where
  node : a ∈ graph.nodes
  fresh : a ∉ placed
  satisfied : graph.predecessors a ⊆ placed

variable [DecidableEq α]

/-- The number of predecessors that are not placed. -/
def waiting (placed : Finset α) (a : α) : ℕ :=
  (graph.predecessors a \ placed).card

variable {graph}

theorem waiting_empty (a : α) : graph.waiting ∅ a = (graph.predecessors a).card := by
  rw [waiting, Finset.sdiff_empty]

variable {placed : Finset α}

theorem waiting_eq_zero {a : α} : graph.waiting placed a = 0 ↔ graph.predecessors a ⊆ placed := by
  rw [waiting, Finset.card_eq_zero, Finset.sdiff_eq_empty_iff_subset]

theorem waiting_insert_add_one {a b : α} (fresh : a ∉ placed)
    (isPredecessor : a ∈ graph.predecessors b) :
    graph.waiting (insert a placed) b + 1 = graph.waiting placed b := by
  have member : a ∈ graph.predecessors b \ placed := Finset.mem_sdiff.2 ⟨isPredecessor, fresh⟩
  rw [waiting, waiting, Finset.sdiff_insert, Finset.card_erase_add_one member]

theorem waiting_insert_of_notMem {a b : α} (other : a ∉ graph.predecessors b) :
    graph.waiting (insert a placed) b = graph.waiting placed b := by
  rw [waiting, waiting, Finset.sdiff_insert, Finset.erase_eq_of_notMem]
  exact fun member => other (Finset.mem_sdiff.1 member).1

theorem ready_insert_iff {a b : α} (ready : graph.Ready placed a)
    (complete : ∀ c ∈ placed, graph.predecessors c ⊆ placed) : graph.Ready (insert a placed) b ↔
      (graph.Ready placed b ∧ b ≠ a) ∨
        (b ∈ graph.nodes ∧ a ∈ graph.predecessors b ∧ graph.waiting (insert a placed) b = 0) := by
  constructor
  · intro later
    obtain ⟨notSame, fresh⟩ := not_or.1 (mt Finset.mem_insert.2 later.fresh)
    by_cases uses : a ∈ graph.predecessors b
    · exact .inr ⟨later.node, uses, waiting_eq_zero.2 later.satisfied⟩
    refine .inl ⟨⟨later.node, fresh, ?_⟩, notSame⟩
    intro c member
    rcases Finset.mem_insert.1 (later.satisfied member) with same | placedBefore
    · exact absurd (same ▸ member) uses
    · exact placedBefore
  rintro (⟨before, notSame⟩ | ⟨node, uses, none⟩)
  · refine ⟨before.node, ?_, before.satisfied.trans (Finset.subset_insert _ _)⟩
    exact fun member => (Finset.mem_insert.1 member).elim notSame before.fresh
  refine ⟨node, ?_, waiting_eq_zero.1 none⟩
  intro member
  rcases Finset.mem_insert.1 member with same | placedBefore
  · subst same
    exact ready.fresh (ready.satisfied uses)
  · exact ready.fresh (complete b placedBefore uses)

end Graph

/-! ### Orders -/

section Orders

variable {α : Type} [LinearOrder α] {graph : Graph α} {order : List α}

/-- A list that takes the least ready node at every turn. -/
inductive LeastFirst (graph : Graph α) : List α → Prop
  | nil : LeastFirst graph []
  | snoc {order : List α} {a : α} (before : LeastFirst graph order)
      (least : IsLeast {b | graph.Ready order.toFinset b} a) : LeastFirst graph (order ++ [a])

namespace LeastFirst

theorem nodup (taken : LeastFirst graph order) : order.Nodup := by
  induction taken with
  | nil => exact nodup_nil
  | snoc before least ih =>
    refine nodup_append.2 ⟨ih, nodup_singleton _, ?_⟩
    intro b member c isLast same
    rw [mem_singleton.1 isLast] at same
    exact least.1.fresh (mem_toFinset.2 (same ▸ member))

theorem subset (taken : LeastFirst graph order) : order.toFinset ⊆ graph.nodes := by
  induction taken with
  | nil => exact Finset.empty_subset _
  | snoc before least ih =>
    intro b member
    rcases mem_append.1 (mem_toFinset.1 member) with earlier | isLast
    · exact ih (mem_toFinset.2 earlier)
    rw [mem_singleton.1 isLast]
    exact least.1.node

theorem complete (taken : LeastFirst graph order) :
    ∀ a ∈ order.toFinset, graph.predecessors a ⊆ order.toFinset := by
  induction taken with
  | nil => exact fun a member => absurd member (Finset.notMem_empty a)
  | snoc before least ih =>
    intro b member c uses
    rw [toFinset_append, Finset.mem_union]
    left
    rcases mem_append.1 (mem_toFinset.1 member) with earlier | isLast
    · exact ih b (mem_toFinset.2 earlier) uses
    rw [mem_singleton.1 isLast] at uses
    exact least.1.satisfied uses

theorem grounded (taken : LeastFirst graph order) : Grounded graph.Edge order.reverse := by
  induction taken with
  | nil => trivial
  | snoc before least ih =>
    rw [reverse_append, reverse_singleton]
    refine ⟨fun b edge => ?_, ih⟩
    exact mem_reverse.2 (mem_toFinset.1 (least.1.satisfied edge.2))

theorem isLeast_getElem (taken : LeastFirst graph order) {k : ℕ} (inside : k < order.length) :
    IsLeast {b | graph.Ready (order.take k).toFinset b} order[k] := by
  induction taken with
  | nil => exact absurd inside (Nat.not_lt_zero k)
  | @snoc order a before least ih =>
    by_cases earlier : k < order.length
    · rw [take_append_of_le_length earlier.le, getElem_append_left earlier]
      exact ih earlier
    rw [length_append, length_singleton] at inside
    have isLast : k = order.length := by omega
    subst isLast
    rw [take_append_of_le_length le_rfl, take_length, getElem_concat_length rfl]
    exact least

theorem mem_of_append (taken : LeastFirst graph order) {first rest : List α} {a b : α}
    (same : order = first ++ a :: rest) (uses : b ∈ graph.predecessors a) : b ∈ first := by
  have inside : first.length < order.length := by
    rw [same, length_append, length_cons]
    omega
  have ready := (taken.isLeast_getElem inside).1
  subst same
  rw [take_left, getElem_append_right le_rfl] at ready
  simp only [Nat.sub_self, getElem_cons_zero] at ready
  exact mem_toFinset.1 (ready.satisfied uses)

theorem acyclic (taken : LeastFirst graph order) (all : order.toFinset = graph.nodes) :
    ¬Cyclic graph.Edge := by
  rintro ⟨a, loop⟩
  obtain ⟨_, _, edge⟩ := TransGen.tail'_iff.1 loop
  have member : a ∈ order.reverse := by
    rw [mem_reverse, ← mem_toFinset, all]
    exact edge.1
  exact taken.grounded.not_transGen_self (nodup_reverse.2 taken.nodup) member loop

theorem cyclic (stuck : ∀ a, ¬graph.Ready order.toFinset a) (left : order.toFinset ≠ graph.nodes)
    (subset : order.toFinset ⊆ graph.nodes) : Cyclic graph.Edge := by
  have nonempty : (graph.nodes \ order.toFinset).toList ≠ [] := by
    intro none
    rw [Finset.toList_eq_nil, Finset.sdiff_eq_empty_iff_subset] at none
    exact left (subset.antisymm none)
  refine cyclic_of_no_minimal nonempty ?_
  intro a member
  obtain ⟨node, fresh⟩ := Finset.mem_sdiff.1 (Finset.mem_toList.1 member)
  have waits : ¬graph.predecessors a ⊆ order.toFinset := fun satisfied =>
    stuck a ⟨node, fresh, satisfied⟩
  obtain ⟨b, uses, notPlaced⟩ := Finset.not_subset.1 waits
  refine ⟨b, Finset.mem_toList.2 (Finset.mem_sdiff.2 ⟨?_, notPlaced⟩), node, uses⟩
  exact graph.closed a node uses

theorem complete_iff (taken : LeastFirst graph order) (stuck : ∀ a, ¬graph.Ready order.toFinset a) :
    order.length = graph.nodes.card ↔ ¬Cyclic graph.Edge := by
  rw [← toFinset_card_of_nodup taken.nodup]
  constructor
  · intro full
    exact taken.acyclic (Finset.eq_of_subset_of_card_le taken.subset full.ge)
  intro acyclic
  by_contra notFull
  exact acyclic (cyclic stuck (fun same => notFull (congrArg Finset.card same)) taken.subset)

end LeastFirst

end Orders

end Wts.ReadyOrder
