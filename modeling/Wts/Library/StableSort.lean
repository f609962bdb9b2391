/-
Module: Wts.Library.StableSort
Purpose: Facts about sorting a list by a key with a stable sort.
-/
import Mathlib

namespace Wts.StableSort

open List

variable {α β : Type*} [LinearOrder β] (key : α → β)

instance totalKey : Std.Total fun a b : α => key a ≤ key b :=
  ⟨fun a b => le_total (key a) (key b)⟩

instance transKey : IsTrans α fun a b => key a ≤ key b :=
  ⟨fun _ _ _ => le_trans⟩

theorem filter_key_orderedInsert (k : β) (a : α) (sorted : List α) :
    (sorted.orderedInsert (fun a b => key a ≤ key b) a).filter (fun x => key x = k) =
      (a :: sorted).filter fun x => key x = k := by
  induction sorted with
  | nil => rfl
  | cons b rest ih =>
    by_cases hab : key a ≤ key b
    · rw [orderedInsert_cons, if_pos hab]
    rw [orderedInsert_cons, if_neg hab]
    -- the passed element has a smaller key, so at most one of the two has key `k`
    by_cases hb : key b = k
    · have ha : key a ≠ k := fun h => hab (by rw [h, hb])
      simp only [filter_cons, hb, ha] at ih ⊢
      simpa using ih
    simp only [filter_cons, hb] at ih ⊢
    simpa using ih

theorem filter_key_insertionSort (k : β) (list : List α) :
    (list.insertionSort fun a b => key a ≤ key b).filter (fun x => key x = k) =
      list.filter fun x => key x = k := by
  induction list with
  | nil => rfl
  | cons a rest ih =>
    rw [insertionSort_cons, filter_key_orderedInsert, filter_cons, filter_cons, ih]

theorem eq_filter_append_filter (k : β) {sorted : List α}
    (h : sorted.Pairwise fun a b => key a ≤ key b) : sorted = sorted.filter (fun x => key x < k) ++
      (sorted.filter (fun x => key x = k) ++ sorted.filter fun x => k < key x) := by
  induction sorted with
  | nil => rfl
  | cons a rest ih =>
    obtain ⟨head, tail⟩ := pairwise_cons.1 h
    rcases lt_trichotomy (key a) k with below | same | above
    · conv_lhs => rw [ih tail]
      simp [below, below.ne, below.le]
    · have none_below : rest.filter (fun x => key x < k) = [] := by
        rw [filter_eq_nil_iff]
        intro x hx
        simpa [same] using head x hx
      conv_lhs => rw [ih tail]
      simp [same, none_below]
    have none_below : rest.filter (fun x => key x < k) = [] := by
      rw [filter_eq_nil_iff]
      intro x hx
      simpa using above.le.trans (head x hx)
    have none_same : rest.filter (fun x => key x = k) = [] := by
      rw [filter_eq_nil_iff]
      intro x hx
      simpa using (above.trans_le (head x hx)).ne'
    conv_lhs => rw [ih tail]
    simp [above, above.ne', above.le, none_below, none_same]

theorem eq_of_filter_key_eq {first second : List α}
    (sortedFirst : first.Pairwise fun a b => key a ≤ key b)
    (sortedSecond : second.Pairwise fun a b => key a ≤ key b)
    (same : ∀ k, first.filter (fun x => key x = k) = second.filter fun x => key x = k) :
    first = second := by
  induction first generalizing second with
  | nil =>
    cases second with
    | nil => rfl
    | cons b rest => simpa using same (key b)
  | cons a first ih =>
    cases second with
    | nil => simpa using same (key a)
    | cons b second =>
      obtain ⟨aFirst, sortedRest⟩ := pairwise_cons.1 sortedFirst
      obtain ⟨bFirst, sortedRest'⟩ := pairwise_cons.1 sortedSecond
      have member : ∀ {x : α} {l l' : List α}, (∀ k, l.filter (fun x => key x = k) =
          l'.filter fun x => key x = k) → x ∈ l → x ∈ l' := by
        intro x l l' same inside
        have kept : x ∈ l.filter fun y => key y = key x :=
          mem_filter.2 ⟨inside, decide_eq_true rfl⟩
        rw [same] at kept
        exact (mem_filter.1 kept).1
      have below : key b ≤ key a := by
        rcases mem_cons.1 (member same mem_cons_self) with rfl | later
        · exact le_rfl
        · exact bFirst a later
      have above : key a ≤ key b := by
        rcases mem_cons.1 (member (fun k => (same k).symm) mem_cons_self) with
          rfl | later
        · exact le_rfl
        · exact aFirst b later
      have sameKey := le_antisymm above below
      have heads := same (key a)
      simp only [filter_cons, sameKey, decide_true, if_true, List.cons.injEq] at heads
      obtain ⟨rfl, tails⟩ := heads
      rw [ih sortedRest sortedRest']
      intro k
      have kept := same k
      rw [filter_cons, filter_cons] at kept
      split_ifs at kept
      · exact (List.cons.inj kept).2
      · exact kept

theorem insertionSort_key_eq_of_perm {first second : List α} (same : first.Perm second)
    (distinct : (first.map key).Nodup) : (first.insertionSort fun a b => key a ≤ key b) =
      second.insertionSort fun a b => key a ≤ key b := by
  apply @List.Perm.eq_of_pairwise _ fun a b => key a ≤ key b
  · intro a b ha hb hab hba
    rw [mem_insertionSort] at ha hb
    exact inj_on_of_nodup_map distinct ha (same.mem_iff.2 hb) (le_antisymm hab hba)
  · exact pairwise_insertionSort _ _
  · exact pairwise_insertionSort _ _
  · exact (perm_insertionSort _ _).trans (same.trans (perm_insertionSort _ _).symm)

theorem insertionSort_eq_of_perm {first second : List β} (same : first.Perm second) :
    first.insertionSort (· ≤ ·) = second.insertionSort (· ≤ ·) := by
  apply @List.Perm.eq_of_pairwise _ (· ≤ ·)
  · intro a b _ _ hab hba
    exact le_antisymm hab hba
  · exact pairwise_insertionSort _ _
  · exact pairwise_insertionSort _ _
  · exact (perm_insertionSort _ _).trans (same.trans (perm_insertionSort _ _).symm)

theorem mem_reverse_take_iff {sorted : List β} (strict : sorted.Pairwise (· < ·)) {x : β} {n : ℕ}
    (member : x ∈ sorted) :
    x ∈ sorted.reverse.take n ↔ (sorted.filter fun y => x < y).length < n := by
  obtain ⟨before, after, rfl⟩ := append_of_mem member
  obtain ⟨_, strictRest, across⟩ := pairwise_append.1 strict
  have later : ∀ y ∈ after, x < y := (pairwise_cons.1 strictRest).1
  have greater : (before ++ x :: after).filter (fun y => x < y) = after := by
    rw [filter_append, filter_eq_nil_iff.2, nil_append,
      filter_cons_of_neg (by simp), filter_eq_self.2]
    · exact fun y inAfter => decide_eq_true (later y inAfter)
    intro y inBefore
    rw [decide_eq_true_eq]
    exact (across y inBefore x mem_cons_self).le.not_gt
  have reversed : (before ++ x :: after).reverse = after.reverse ++ x :: before.reverse := by
    simp
  rw [greater, reversed, take_append, mem_append, length_reverse]
  have notAfter : x ∉ after.reverse.take n := fun inside =>
    lt_irrefl x (later x (mem_reverse.1 (mem_of_mem_take inside)))
  rw [or_iff_right notAfter]
  rcases Nat.lt_or_ge after.length n with few | many
  · obtain ⟨room, rest⟩ : ∃ room, n - after.length = room + 1 := ⟨n - after.length - 1, by omega⟩
    rw [rest, take_succ_cons]
    exact ⟨fun _ => few, fun _ => mem_cons_self⟩
  rw [Nat.sub_eq_zero_of_le many, take_zero]
  exact ⟨fun none => absurd none not_mem_nil, fun few => absurd few many.not_gt⟩

end Wts.StableSort
