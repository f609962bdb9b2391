/-
Module: Wts.Library.Retention
Purpose: The longest start of a list within a limit of items and a limit of their total size.
-/
import Mathlib

namespace Wts.Retention

open List

variable {α : Type*} (maximumCount maximumSize : ℕ) (size : α → ℕ)

/-- How many items are retained, when so many of a total size are already. -/
def retainedCount : ℕ → ℕ → List α → ℕ
  | count, _, [] => count
  | count, total, item :: rest =>
    if count = maximumCount then count
    else if maximumSize < total + size item then count
    else retainedCount (count + 1) (total + size item) rest

variable {maximumCount maximumSize size}

theorem le_retainedCount (count total : ℕ) (items : List α) :
    count ≤ retainedCount maximumCount maximumSize size count total items := by
  induction items generalizing count total with
  | nil => exact le_refl _
  | cons item rest ih =>
    rw [retainedCount]
    split
    · exact le_refl _
    split
    · exact le_refl _
    · exact (Nat.le_succ _).trans (ih _ _)

theorem retainedCount_le {count total : ℕ} {items : List α} (within : count ≤ maximumCount) :
    retainedCount maximumCount maximumSize size count total items ≤ maximumCount := by
  induction items generalizing count total with
  | nil => exact within
  | cons item rest ih =>
    rw [retainedCount]
    split
    · exact within
    split
    · exact within
    · exact ih (by omega)

theorem sum_take_le {count total : ℕ} {items : List α} (within : total ≤ maximumSize) :
    total + ((items.take (retainedCount maximumCount maximumSize size count total items - count)).map
      size).sum ≤ maximumSize := by
  induction items generalizing count total with
  | nil => simpa using within
  | cons item rest ih =>
    rw [retainedCount]
    split
    · simpa using within
    split
    · simpa using within
    rename_i fits
    have more := @le_retainedCount _ maximumCount maximumSize size (count + 1) (total + size item)
      rest
    have taken : ∃ further, retainedCount maximumCount maximumSize size (count + 1)
        (total + size item) rest = count + 1 + further := Nat.exists_eq_add_of_le more
    obtain ⟨further, isMore⟩ := taken
    have later := @ih (count + 1) _ (not_lt.1 fits)
    rw [isMore, Nat.add_sub_cancel_left] at later
    rw [isMore, Nat.add_assoc, Nat.add_sub_cancel_left, Nat.add_comm 1 further,
      take_succ_cons, map_cons, sum_cons, ← Nat.add_assoc]
    exact later

/-- No longer start of the list is within the limits. -/
theorem add_le_retainedCount {count total longer : ℕ} {items : List α}
    (inside : longer ≤ items.length) (few : count + longer ≤ maximumCount)
    (small : total + ((items.take longer).map size).sum ≤ maximumSize) :
    count + longer ≤ retainedCount maximumCount maximumSize size count total items := by
  induction items generalizing count total longer with
  | nil => exact Nat.add_le_add_left inside count
  | cons item rest ih =>
    cases longer with
    | zero => exact le_retainedCount count total _
    | succ longer =>
      rw [take_succ_cons, map_cons, sum_cons, ← Nat.add_assoc] at small
      rw [retainedCount, if_neg (by omega), if_neg (by omega), Nat.add_comm longer, ← Nat.add_assoc]
      exact ih (Nat.le_of_succ_le_succ inside) (by omega) small

theorem length_take_retainedCount_le (items : List α) :
    (items.take (retainedCount maximumCount maximumSize size 0 0 items)).length ≤ maximumCount :=
  (length_take_le _ _).trans (retainedCount_le (Nat.zero_le _))

theorem sum_take_retainedCount_le (items : List α) :
    ((items.take (retainedCount maximumCount maximumSize size 0 0 items)).map size).sum ≤
      maximumSize := by
  have within := @sum_take_le _ maximumCount maximumSize size 0 0 items (Nat.zero_le _)
  rwa [Nat.sub_zero, Nat.zero_add] at within

theorem retainedCount_pos {first : α} {rest : List α} (some : 0 < maximumCount)
    (fits : size first ≤ maximumSize) :
    0 < retainedCount maximumCount maximumSize size 0 0 (first :: rest) := by
  rw [retainedCount, if_neg some.ne, Nat.zero_add, if_neg (not_lt.2 fits)]
  exact le_retainedCount 1 _ rest

end Wts.Retention
