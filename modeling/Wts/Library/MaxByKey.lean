/-
Module: Wts.Library.MaxByKey
Purpose: The greatest element of a list by a key, the last one of several, and the elements of the
  greatest key.
-/
import Mathlib

namespace Wts.MaxByKey

open List

variable {α β γ : Type*} [LinearOrder β] [LinearOrder γ]

def maxByKey (key : α → β) : List α → Option α
  | [] => none
  | item :: rest =>
    match maxByKey key rest with
    | none => some item
    | some best => if key item ≤ key best then some best else some item

variable {key : α → β} {items : List α}

theorem maxByKey_eq_none_iff : maxByKey key items = none ↔ items = [] := by
  cases items with
  | nil => exact ⟨fun _ => rfl, fun _ => rfl⟩
  | cons item rest =>
    constructor
    · intro isNone
      rw [maxByKey] at isNone
      split at isNone
      · cases isNone
      · split at isNone <;> cases isNone
    intro impossible
    cases impossible

theorem maxByKey_spec {best : α} (found : maxByKey key items = some best) :
    best ∈ items ∧ ∀ item ∈ items, key item ≤ key best := by
  induction items generalizing best with
  | nil => cases found
  | cons first rest ih =>
    rw [maxByKey] at found
    cases later : maxByKey key rest with
    | none =>
      rw [later] at found
      obtain rfl := Option.some.inj found
      rw [maxByKey_eq_none_iff.1 later]
      refine ⟨mem_cons_self, ?_⟩
      intro item member
      rw [mem_singleton.1 member]
    | some other =>
      rw [later] at found
      obtain ⟨inRest, greatest⟩ := ih later
      by_cases below : key first ≤ key other
      · simp only [if_pos below] at found
        obtain rfl := Option.some.inj found
        refine ⟨mem_cons_of_mem _ inRest, ?_⟩
        intro item member
        rcases mem_cons.1 member with isFirst | inside
        · rw [isFirst]
          exact below
        · exact greatest item inside
      simp only [if_neg below] at found
      obtain rfl := Option.some.inj found
      refine ⟨mem_cons_self, ?_⟩
      intro item member
      rcases mem_cons.1 member with isFirst | inside
      · rw [isFirst]
      · exact (greatest item inside).trans (le_of_not_ge below)

/-- The elements with the latest time. -/
def latest (time : α → γ) (items : List α) : List α :=
  items.filter fun item => items.all fun other => time other ≤ time item

variable {time : α → γ}

theorem mem_latest {item : α} :
    item ∈ latest time items ↔ item ∈ items ∧ ∀ other ∈ items, time other ≤ time item := by
  simp [latest]

theorem filter_eq_latest {best : α}
    (grows : ∀ first second, key first ≤ key second → time first ≤ time second)
    (found : maxByKey key items = some best) :
    (items.filter fun item => time item = time best) = latest time items := by
  obtain ⟨member, greatest⟩ := maxByKey_spec found
  apply filter_congr
  intro item inside
  rw [Bool.eq_iff_iff, decide_eq_true_iff, all_eq_true]
  simp only [decide_eq_true_iff]
  constructor
  · intro same other isOther
    rw [same]
    exact grows _ _ (greatest other isOther)
  intro last
  exact le_antisymm (grows _ _ (greatest item inside)) (last best member)

theorem mem_latest_of_maxByKey {best : α}
    (grows : ∀ first second, key first ≤ key second → time first ≤ time second)
    (found : maxByKey key items = some best) : best ∈ latest time items := by
  obtain ⟨member, greatest⟩ := maxByKey_spec found
  exact mem_latest.2 ⟨member, fun other inside => grows _ _ (greatest other inside)⟩

end Wts.MaxByKey
