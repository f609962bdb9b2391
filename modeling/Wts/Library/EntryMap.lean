/-
Module: Wts.Library.EntryMap
Purpose: Ordered maps that are filled by inserting a list of entries one after the other.
-/
import Mathlib

namespace Wts.EntryMap

open List Option

variable {α β γ : Type} [DecidableEq α]

/-- The map after inserting the entries in order. -/
def ofEntries (cmp : α → α → Ordering) (entries : List (α × β)) : Std.TreeMap α β cmp :=
  entries.foldl (fun fields entry => fields.insert entry.1 entry.2) ∅

/-- The value of the last entry with a key. -/
def lastValue : List (α × β) → α → Option β
  | [], _ => none
  | entry :: rest, key => (lastValue rest key).or (if entry.1 = key then some entry.2 else none)

theorem lastValue_append (first second : List (α × β)) (key : α) :
    lastValue (first ++ second) key = (lastValue second key).or (lastValue first key) := by
  induction first with
  | nil => simp [lastValue]
  | cons entry rest ih => rw [cons_append, lastValue, lastValue, ih, Option.or_assoc]

variable {entries : List (α × β)}

theorem lastValue_eq_none {key : α}
    (absent : ∀ entry ∈ entries, entry.1 ≠ key) : lastValue entries key = none := by
  induction entries with
  | nil => rfl
  | cons entry rest ih =>
    rw [lastValue, ih fun other member => absent other (mem_cons_of_mem _ member),
      if_neg (absent entry mem_cons_self)]
    rfl

theorem mem_of_lastValue_eq_some {key : α} {value : β}
    (found : lastValue entries key = some value) : (key, value) ∈ entries := by
  induction entries with
  | nil => cases found
  | cons entry rest ih =>
    rw [lastValue, or_eq_some_iff] at found
    rcases found with later | ⟨_, here⟩
    · exact mem_cons_of_mem _ (ih later)
    split at here
    · rename_i same
      cases here
      rw [← same]
      exact mem_cons_self
    · cases here

theorem lastValue_eq_some_of_mem {key : α} {value : β}
    (distinct : (entries.map Prod.fst).Nodup) (member : (key, value) ∈ entries) :
    lastValue entries key = some value := by
  cases found : lastValue entries key with
  | none =>
    induction entries with
    | nil => cases member
    | cons entry rest ih =>
      rw [lastValue, or_eq_none_iff] at found
      rcases mem_cons.1 member with rfl | inside
      · simp at found
      · exact ih (nodup_cons.1 distinct).2 inside found.1
  | some other =>
    have := inj_on_of_nodup_map distinct (mem_of_lastValue_eq_some found) member rfl
    exact congrArg some (Prod.mk.inj this).2

theorem lastValue_map {α' : Type} [DecidableEq α'] {rename : α → α'}
    (injective : Function.Injective rename) (key : γ → α) (value : γ → β) (items : List γ) (k : α) :
    lastValue (items.map fun item => (rename (key item), value item)) (rename k) =
      (lastValue (items.map fun item => (key item, item)) k).map value := by
  induction items with
  | nil => rfl
  | cons item rest ih =>
    simp only [map_cons, lastValue, ih, injective.eq_iff, map_or]
    split <;> rfl

theorem lastValue_mapIdx {key : ℕ → α} (injective : Function.Injective key) (value : γ → β)
    (items : List γ) (index : ℕ) :
    lastValue (items.mapIdx fun i item => (key i, value item)) (key index) =
      items[index]?.map value := by
  induction items using List.reverseRecOn with
  | nil => rfl
  | append_singleton items item ih =>
    rw [mapIdx_concat, lastValue_append, ih, getElem?_append]
    simp only [lastValue, injective.eq_iff, none_or]
    rcases lt_trichotomy index items.length with before | here | behind
    · rw [if_neg (by omega), if_pos before, none_or]
    · subst here
      simp
    rw [if_neg (by omega), if_neg (by omega), none_or,
      getElem?_eq_none (by omega), getElem?_eq_none (by simp; omega)]

variable {cmp : α → α → Ordering} [Std.TransCmp cmp] [Std.LawfulEqCmp cmp]

theorem getElem?_foldl_insert (entries : List (α × β)) (fields : Std.TreeMap α β cmp) (key : α) :
    (entries.foldl (fun fields entry => fields.insert entry.1 entry.2) fields)[key]? =
      (lastValue entries key).or fields[key]? := by
  induction entries generalizing fields with
  | nil => rfl
  | cons entry rest ih =>
    rw [foldl_cons, ih, Std.TreeMap.getElem?_insert, lastValue, Option.or_assoc]
    congr 1
    simp only [Std.LawfulEqCmp.compare_eq_iff_eq]
    split <;> rfl

variable (cmp)

theorem getElem?_ofEntries (entries : List (α × β)) (key : α) :
    (ofEntries cmp entries)[key]? = lastValue entries key := by
  rw [ofEntries, getElem?_foldl_insert, Std.TreeMap.getElem?_emptyc, or_none]

omit [DecidableEq α] [Std.LawfulEqCmp cmp] in
theorem size_ofEntries_le (entries : List (α × β)) :
    (ofEntries cmp entries).size ≤ entries.length := by
  induction entries using List.reverseRecOn with
  | nil => exact Nat.zero_le _
  | append_singleton entries entry ih =>
    rw [ofEntries, foldl_append, length_append]
    exact Std.TreeMap.size_insert_le.trans (Nat.add_le_add_right ih 1)

theorem toList_ofEntries_eq_iff {first second : List (α × β)} :
    (ofEntries cmp first).toList = (ofEntries cmp second).toList ↔
      ∀ key, lastValue first key = lastValue second key := by
  rw [← Std.TreeMap.equiv_iff_toList_eq]
  constructor
  · intro same key
    rw [← getElem?_ofEntries cmp, ← getElem?_ofEntries cmp, same.getElem?_eq]
  intro same
  apply Std.TreeMap.Equiv.of_forall_constGet?_eq
  intro key
  rw [getElem?_ofEntries, getElem?_ofEntries, same key]

end Wts.EntryMap
