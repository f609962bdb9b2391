/-
Module: Wts.Library.SortDedup
Purpose: What sorting a list of strings and dropping repeated neighbours keeps: the entries as a set,
  in increasing order.
-/
import Wts.Library.Text
import Wts.Library.BestChoice

namespace Wts.Text

open BestChoice List

theorem mem_sortDedup {entries : List String} {text : String} :
    text ∈ sortDedup entries ↔ text ∈ entries := by
  constructor
  · intro inside
    have sorted := (destutter_sublist _ _).subset inside
    rwa [mem_insertionSort] at sorted
  intro inside
  obtain ⟨kept, member, same, -⟩ := exists_mem_destutter id id
    (pairwise_insertionSort (· ≤ ·) entries) ((mem_insertionSort _).2 inside)
  simp only [id_eq] at same
  exact same ▸ member

theorem sortDedup_strict (entries : List String) : (sortDedup entries).Pairwise (· < ·) := by
  have sorted : (sortDedup entries).Pairwise (· ≤ ·) :=
    (pairwise_insertionSort (· ≤ ·) entries).sublist (destutter_sublist _ _)
  have chain : (sortDedup entries).IsChain (· ≠ ·) := isChain_destutter _ _
  rw [← isChain_iff_pairwise]
  generalize sortDedup entries = list at sorted chain
  induction list with
  | nil => exact .nil
  | cons first rest ih =>
    cases rest with
    | nil => exact .singleton _
    | cons second rest =>
      obtain ⟨below, sortedRest⟩ := pairwise_cons.1 sorted
      obtain ⟨apart, chainRest⟩ := isChain_cons_cons.1 chain
      exact isChain_cons_cons.2
        ⟨lt_of_le_of_ne (below second mem_cons_self) apart, ih sortedRest chainRest⟩

theorem sortDedup_eq_iff {first second : List String} :
    sortDedup first = sortDedup second ↔ ∀ text, text ∈ first ↔ text ∈ second := by
  constructor
  · intro same text
    rw [← mem_sortDedup, same, mem_sortDedup]
  intro same
  have permuted : (sortDedup first).Perm (sortDedup second) := by
    rw [perm_ext_iff_of_nodup (sortDedup_strict first).nodup (sortDedup_strict second).nodup]
    intro text
    rw [mem_sortDedup, mem_sortDedup, same]
  exact permuted.eq_of_pairwise (fun _ _ _ _ below above => absurd above below.asymm)
    (sortDedup_strict first) (sortDedup_strict second)

end Wts.Text
