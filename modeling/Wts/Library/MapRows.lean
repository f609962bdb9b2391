/-
Module: Wts.Library.MapRows
Purpose: The rows of an ordered map as a list: how the list changes, up to order, when a row is
  added, replaced or removed.
-/
import Mathlib

namespace Wts.MapRows

open Std List

variable {α β : Type} {cmp : α → α → Ordering} [TransCmp cmp] [LawfulEqCmp cmp]

theorem pairwise_key_ne (rows : ExtTreeMap α β cmp) :
    rows.toList.Pairwise fun a b => a.1 ≠ b.1 := by
  refine rows.distinct_keys_toList.imp fun {a b} distinct equal => distinct ?_
  rw [equal]
  exact ReflCmp.compare_self

theorem nodup_keys (rows : ExtTreeMap α β cmp) : (rows.toList.map Prod.fst).Nodup := by
  rw [List.Nodup, pairwise_map]
  exact pairwise_key_ne rows

theorem nodup_toList (rows : ExtTreeMap α β cmp) : rows.toList.Nodup :=
  (nodup_keys rows).of_map

theorem lookup_insert [DecidableEq α] (rows : ExtTreeMap α β cmp) (k : α) (v : β) (a : α) :
    (rows.insert k v)[a]? = if k = a then some v else rows[a]? := by
  rw [ExtTreeMap.getElem?_insert]
  simp only [LawfulEqCmp.compare_eq_iff_eq]

theorem lookup_erase [DecidableEq α] (rows : ExtTreeMap α β cmp) (k a : α) :
    (rows.erase k)[a]? = if k = a then none else rows[a]? := by
  rw [ExtTreeMap.getElem?_erase]
  simp only [LawfulEqCmp.compare_eq_iff_eq]

variable {rows : ExtTreeMap α β cmp}

theorem mem_toList {row : α × β} : row ∈ rows.toList ↔ rows[row.1]? = some row.2 :=
  ExtTreeMap.mem_toList_iff_getElem?_eq_some

theorem toList_insert_of_none [DecidableEq α] {k : α}
    (absent : rows[k]? = none) (v : β) : (rows.insert k v).toList.Perm ((k, v) :: rows.toList) := by
  have fresh : (k, v) ∉ rows.toList := by
    rw [mem_toList, absent]
    simp
  rw [perm_ext_iff_of_nodup (nodup_toList _) (nodup_cons.2 ⟨fresh, nodup_toList _⟩)]
  rintro ⟨a, b⟩
  rw [mem_cons, mem_toList, mem_toList, lookup_insert, Prod.mk.injEq]
  by_cases same : k = a
  · subst same
    simp [absent, eq_comm]
  · simp [same, eq_comm]

theorem toList_perm_erase [DecidableEq α] {k : α} {v : β}
    (present : rows[k]? = some v) : rows.toList.Perm ((k, v) :: (rows.erase k).toList) := by
  have gone : (k, v) ∉ (rows.erase k).toList := by
    rw [mem_toList, lookup_erase]
    simp
  rw [perm_ext_iff_of_nodup (nodup_toList _) (nodup_cons.2 ⟨gone, nodup_toList _⟩)]
  rintro ⟨a, b⟩
  rw [mem_cons, mem_toList, mem_toList, lookup_erase, Prod.mk.injEq]
  by_cases same : k = a
  · subst same
    simp [present, eq_comm]
  · simp [same, eq_comm]

theorem toList_insert_perm_erase [DecidableEq α] (rows : ExtTreeMap α β cmp) (k : α) (v : β) :
    (rows.insert k v).toList.Perm ((k, v) :: (rows.erase k).toList) := by
  have erased : (rows.insert k v).erase k = rows.erase k := by
    apply ExtTreeMap.ext_getElem?
    intro a
    rw [lookup_erase, lookup_erase, lookup_insert]
    split <;> rfl
  have present : (rows.insert k v)[k]? = some v := by
    rw [lookup_insert, if_pos rfl]
  rw [← erased]
  exact toList_perm_erase present

end Wts.MapRows
