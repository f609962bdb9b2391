/-
Module: Wts.Library.Acyclic
Purpose: Finite parts of a relation.
-/
import Mathlib

namespace Wts.Acyclic

open List Relation

variable {α : Type} {r : α → α → Prop}

/-- The relation has a cycle. -/
def Cyclic (r : α → α → Prop) : Prop :=
  ∃ a, TransGen r a a

/-- The elements on a cycle through `a`. -/
def OnCycle (r : α → α → Prop) (a b : α) : Prop :=
  TransGen r a b ∧ TransGen r b a

theorem onCycle_predecessor {a b : α} (on : OnCycle r a b) : ∃ c, OnCycle r a c ∧ r c b := by
  obtain ⟨forth, back⟩ := on
  cases forth with
  | single edge =>
    have around := (TransGen.single edge).trans back
    exact ⟨a, ⟨around, around⟩, edge⟩
  | tail before edge => exact ⟨_, ⟨before, (TransGen.single edge).trans back⟩, edge⟩

variable {items : List α}

theorem exists_minimal (nonempty : items ≠ []) (acyclic : ¬ Cyclic r) :
    ∃ a ∈ items, ∀ b ∈ items, ¬ r b a := by
  let inner : {a // a ∈ items} → {a // a ∈ items} → Prop := TransGen fun b a => r b.1 a.1
  have finite : Finite {a // a ∈ items} := items.finite_toSet
  have lift : ∀ b a, inner b a → TransGen r b.1 a.1 := by
    intro b a path
    exact path.lift Subtype.val fun _ _ edge => edge
  have trans : IsTrans _ inner := ⟨fun _ _ _ => TransGen.trans⟩
  have irrefl : Std.Irrefl inner := ⟨fun a loop => acyclic ⟨a.1, lift a a loop⟩⟩
  obtain ⟨first, member⟩ := exists_mem_of_ne_nil items nonempty
  obtain ⟨least, _, minimal⟩ := (Finite.wellFounded_of_trans_of_irrefl inner).has_min Set.univ
    ⟨⟨first, member⟩, trivial⟩
  refine ⟨least.1, least.2, fun b inside edge => ?_⟩
  exact minimal ⟨b, inside⟩ trivial (.single edge)

theorem cyclic_of_no_minimal (nonempty : items ≠ [])
    (stuck : ∀ a ∈ items, ∃ b ∈ items, r b a) : Cyclic r := by
  by_contra acyclic
  obtain ⟨a, member, minimal⟩ := exists_minimal nonempty acyclic
  obtain ⟨b, inside, edge⟩ := stuck a member
  exact minimal b inside edge

/-- The predecessors of each element come after it in the list. -/
def Grounded (r : α → α → Prop) : List α → Prop
  | [] => True
  | a :: rest => (∀ b, r b a → b ∈ rest) ∧ Grounded r rest

theorem Grounded.mono {s : α → α → Prop} (grounded : Grounded r items)
    (weaker : ∀ a b, s a b → r a b) : Grounded s items := by
  induction items with
  | nil => trivial
  | cons first rest ih => exact ⟨fun b edge => grounded.1 b (weaker b first edge), ih grounded.2⟩

theorem Grounded.mem_of_rel (grounded : Grounded r items) {a b : α}
    (member : a ∈ items) (edge : r b a) : b ∈ items := by
  induction items with
  | nil => cases member
  | cons first rest ih =>
    rcases mem_cons.1 member with equal | later
    · subst equal
      exact mem_cons_of_mem _ (grounded.1 b edge)
    exact mem_cons_of_mem _ (ih grounded.2 later)

theorem Grounded.mem_of_transGen (grounded : Grounded r items) {a b : α}
    (member : a ∈ items) (path : TransGen r b a) : b ∈ items := by
  induction path using TransGen.head_induction_on with
  | single edge => exact grounded.mem_of_rel member edge
  | head edge _ ih => exact grounded.mem_of_rel ih edge

theorem Grounded.not_transGen_self (grounded : Grounded r items)
    (nodup : items.Nodup) {a : α} (member : a ∈ items) : ¬TransGen r a a := by
  induction items with
  | nil => cases member
  | cons first rest ih =>
    rw [nodup_cons] at nodup
    rcases mem_cons.1 member with equal | later
    · subst equal
      intro loop
      obtain ⟨b, path, edge⟩ := TransGen.tail'_iff.1 loop
      have back : a ∈ rest := by
        rcases Relation.reflTransGen_iff_eq_or_transGen.1 path with equal | path
        · rw [← equal]
          exact grounded.1 b edge
        exact grounded.2.mem_of_transGen (grounded.1 b edge) path
      exact nodup.1 back
    exact ih grounded.2 nodup.2 later

theorem Grounded.append {first second : List α} (grounded : Grounded r second)
    (later : ∀ a ∈ first, ∀ b, r b a → b ∈ second) : Grounded r (first ++ second) := by
  induction first with
  | nil => exact grounded
  | cons a rest ih =>
    refine ⟨fun b edge => ?_, ih fun a' member => later a' (mem_cons_of_mem _ member)⟩
    exact mem_append_right _ (later a mem_cons_self b edge)

/-! ### Removal in rounds -/

section Rounds

variable [DecidableEq α]

/-- Items with their predecessors: in each round those whose predecessors are all completed are
removed. Whether a round removes nothing although items are left. -/
def stuckRounds : ℕ → List (α × Finset α) → Finset α → Bool
  | 0, remaining, _ => !remaining.isEmpty
  | rounds + 1, remaining, completed =>
    if remaining = [] then
      false
    else
      let ready := (remaining.filter fun item => item.2 ⊆ completed).map Prod.fst
      if ready = [] then
        true
      else
        stuckRounds rounds (remaining.filter fun item => item.1 ∉ ready) (completed ∪ ready.toFinset)

/-- The items that are left and the ones that were completed, of a relation without other items. -/
structure Rounds (r : α → α → Prop) (remaining : List (α × Finset α)) (completed : Finset α) :
    Prop where
  distinct : (remaining.map Prod.fst).Nodup
  predecessors : ∀ item ∈ remaining, ∀ b, r b item.1 ↔ b ∈ item.2
  known : ∀ item ∈ remaining, ∀ b ∈ item.2, b ∈ completed ∨ ∃ other ∈ remaining, other.1 = b
  fresh : ∀ item ∈ remaining, item.1 ∉ completed
  only : ∀ a b, r b a → a ∈ completed ∨ ∃ item ∈ remaining, item.1 = a
  grounded : ∃ order : List α, Grounded r order ∧ order.Nodup ∧ order.toFinset = completed

variable {remaining : List (α × Finset α)} {completed : Finset α}

theorem Rounds.cyclic (rounds : Rounds r remaining completed) (nonempty : remaining ≠ [])
    (stuck : (remaining.filter fun item => item.2 ⊆ completed).map Prod.fst = []) : Cyclic r := by
  refine cyclic_of_no_minimal (show remaining.map Prod.fst ≠ [] by simpa using nonempty) ?_
  intro a member
  obtain ⟨item, isItem, rfl⟩ := mem_map.1 member
  have waits : ¬ item.2 ⊆ completed := by
    intro ready
    have kept : item ∈ remaining.filter fun item => item.2 ⊆ completed :=
      mem_filter.2 ⟨isItem, decide_eq_true ready⟩
    rw [map_eq_nil_iff] at stuck
    rw [stuck] at kept
    cases kept
  obtain ⟨b, isPredecessor, open_⟩ := Finset.not_subset.1 waits
  refine ⟨b, ?_, (rounds.predecessors item isItem b).2 isPredecessor⟩
  rcases rounds.known item isItem b isPredecessor with done | ⟨other, isOther, rfl⟩
  · exact absurd done open_
  exact mem_map_of_mem isOther

theorem Rounds.acyclic (rounds : Rounds r [] completed) : ¬ Cyclic r := by
  rintro ⟨a, loop⟩
  obtain ⟨order, grounded, nodup, rfl⟩ := rounds.grounded
  obtain ⟨b, _, edge⟩ := TransGen.tail'_iff.1 loop
  rcases rounds.only a b edge with done | ⟨_, none, _⟩
  · exact grounded.not_transGen_self nodup (mem_toFinset.1 done) loop
  cases none

theorem Rounds.next {ready : List α} (rounds : Rounds r remaining completed)
    (isReady : ready = (remaining.filter fun item => item.2 ⊆ completed).map Prod.fst) :
    Rounds r (remaining.filter fun item => item.1 ∉ ready) (completed ∪ ready.toFinset) := by
  have mem_left : ∀ item, item ∈ remaining.filter (fun item => item.1 ∉ ready) ↔
      item ∈ remaining ∧ item.1 ∉ ready := by
    intro item
    rw [mem_filter, decide_eq_true_eq]
  have mem_done : ∀ a, a ∈ completed ∪ ready.toFinset ↔ a ∈ completed ∨ a ∈ ready := by
    intro a
    rw [Finset.mem_union, mem_toFinset]
  have of_ready : ∀ a ∈ ready, ∃ item ∈ remaining, item.2 ⊆ completed ∧ item.1 = a := by
    intro a member
    rw [isReady] at member
    obtain ⟨item, isItem, rfl⟩ := mem_map.1 member
    rw [mem_filter, decide_eq_true_eq] at isItem
    exact ⟨item, isItem.1, isItem.2, rfl⟩
  have split : ∀ item ∈ remaining, item.1 ∈ completed ∪ ready.toFinset ∨
      item ∈ remaining.filter fun item => item.1 ∉ ready := by
    intro item member
    by_cases done : item.1 ∈ ready
    · exact Or.inl ((mem_done _).2 (Or.inr done))
    exact Or.inr ((mem_left item).2 ⟨member, done⟩)
  constructor
  · exact rounds.distinct.sublist (filter_sublist.map _)
  · exact fun item member => rounds.predecessors item ((mem_left item).1 member).1
  · intro item member b isPredecessor
    rcases rounds.known item ((mem_left item).1 member).1 b isPredecessor with
      done | ⟨other, isOther, rfl⟩
    · exact Or.inl ((mem_done b).2 (Or.inl done))
    exact (split other isOther).imp id fun left => ⟨other, left, rfl⟩
  · intro item member done
    obtain ⟨inside, notReady⟩ := (mem_left item).1 member
    rcases (mem_done _).1 done with before | now
    · exact rounds.fresh item inside before
    exact notReady now
  · intro a b edge
    rcases rounds.only a b edge with done | ⟨item, isItem, rfl⟩
    · exact Or.inl ((mem_done a).2 (Or.inl done))
    exact (split item isItem).imp id fun left => ⟨item, left, rfl⟩
  obtain ⟨order, grounded, nodup, isOrder⟩ := rounds.grounded
  refine ⟨ready ++ order, grounded.append ?_, ?_, ?_⟩
  · intro a member b edge
    obtain ⟨item, isItem, completes, rfl⟩ := of_ready a member
    have done := completes ((rounds.predecessors item isItem b).1 edge)
    rwa [← isOrder, mem_toFinset] at done
  · refine nodup_append.2 ⟨?_, nodup, ?_⟩
    · rw [isReady]
      exact rounds.distinct.sublist (filter_sublist.map _)
    · intro a member b inOrder same
      obtain ⟨item, isItem, _, rfl⟩ := of_ready a member
      rw [← same, ← mem_toFinset, isOrder] at inOrder
      exact rounds.fresh item isItem inOrder
  rw [toFinset_append, isOrder, Finset.union_comm]

theorem stuckRounds_iff {count : ℕ}
    (enough : remaining.length ≤ count) (rounds : Rounds r remaining completed) :
    stuckRounds count remaining completed = true ↔ Cyclic r := by
  induction count generalizing remaining completed with
  | zero =>
    rw [eq_nil_of_length_eq_zero (Nat.le_zero.1 enough)] at rounds ⊢
    exact ⟨nofun, fun cyclic => absurd cyclic rounds.acyclic⟩
  | succ count ih =>
    rw [stuckRounds]
    split
    · rename_i none
      rw [none] at rounds
      exact ⟨nofun, fun cyclic => absurd cyclic rounds.acyclic⟩
    rename_i some
    simp only
    split
    · rename_i stuck
      exact ⟨fun _ => rounds.cyclic some stuck, fun _ => rfl⟩
    rename_i moves
    refine ih ?_ (rounds.next rfl)
    obtain ⟨a, isReady⟩ := exists_mem_of_ne_nil _ moves
    obtain ⟨item, isItem, rfl⟩ := mem_map.1 isReady
    refine Nat.le_of_lt_succ (lt_of_lt_of_le ?_ enough)
    refine length_filter_lt_length_iff_exists.2 ⟨item, (mem_filter.1 isItem).1, ?_⟩
    rw [decide_eq_true_eq, not_not]
    exact isReady

theorem stuckRounds_iff_cyclic {items : List (α × Finset α)} (distinct : (items.map Prod.fst).Nodup)
    (known : ∀ item ∈ items, ∀ b ∈ item.2, ∃ other ∈ items, other.1 = b) :
    stuckRounds items.length items ∅ = true ↔
      Cyclic fun b a => ∃ item ∈ items, item.1 = a ∧ b ∈ item.2 := by
  refine stuckRounds_iff le_rfl ⟨distinct, ?_, ?_, ?_, ?_, [], trivial, nodup_nil, rfl⟩
  · intro item member b
    constructor
    · rintro ⟨other, isOther, same, isPredecessor⟩
      rwa [← inj_on_of_nodup_map distinct isOther member same]
    exact fun isPredecessor => ⟨item, member, rfl, isPredecessor⟩
  · exact fun item member b isPredecessor => Or.inr (known item member b isPredecessor)
  · exact fun _ _ => Finset.notMem_empty _
  rintro a b ⟨item, isItem, rfl, _⟩
  exact Or.inr ⟨item, isItem, rfl⟩

end Rounds

end Wts.Acyclic
