/-
Module: Wts.Library.FirstMatch
Purpose: Changing the first element of a list that has a property, as a loop over `iter_mut` with
  `find` does; the last element for which a function has a value.
-/
import Mathlib

namespace Wts

open List

variable {α : Type}

/-- Apply a change to the first element that matches. -/
def modifyFirst (matching : α → Bool) (change : α → α) : List α → List α
  | [] => []
  | item :: rest =>
    if matching item then change item :: rest else item :: modifyFirst matching change rest

@[simp] theorem length_modifyFirst (matching : α → Bool) (change : α → α) (items : List α) :
    (modifyFirst matching change items).length = items.length := by
  induction items with
  | nil => rfl
  | cons item rest ih =>
    simp only [modifyFirst]
    split
    · rfl
    · simp [ih]

theorem forall₂_modifyFirst {R : α → α → Prop} {matching : α → Bool} {change : α → α}
    {items : List α} (same : ∀ item ∈ items, R item item)
    (changed : ∀ item, items.find? matching = some item → R item (change item)) :
    List.Forall₂ R items (modifyFirst matching change items) := by
  induction items with
  | nil => exact List.Forall₂.nil
  | cons item rest ih =>
    simp only [modifyFirst]
    split
    · rename_i found
      apply List.Forall₂.cons
      · exact changed item (by simp [found])
      · exact forall₂_same.2 fun other member => same other (mem_cons_of_mem _ member)
    rename_i missed
    apply List.Forall₂.cons
    · exact same item mem_cons_self
    apply ih
    · intro other member
      exact same other (mem_cons_of_mem _ member)
    intro other found
    exact changed other (by simpa [missed] using found)

theorem mem_modifyFirst {matching : α → Bool} {change : α → α} {items : List α} {item : α}
    (member : item ∈ modifyFirst matching change items) :
    item ∈ items ∨ ∃ old, items.find? matching = some old ∧ item = change old := by
  induction items with
  | nil => cases member
  | cons head rest ih =>
    simp only [modifyFirst] at member
    split at member
    · rename_i found
      rcases mem_cons.1 member with same | inRest
      · exact .inr ⟨head, by simp [found], same⟩
      · exact .inl (mem_cons_of_mem _ inRest)
    rename_i missed
    rcases mem_cons.1 member with same | inRest
    · exact .inl (same ▸ mem_cons_self)
    rcases ih inRest with kept | ⟨old, found, same⟩
    · exact .inl (mem_cons_of_mem _ kept)
    · exact .inr ⟨old, by simpa [missed] using found, same⟩

theorem findSome?_reverse_eq_some_iff {β : Type} {f : α → Option β} {items : List α} {value : β} :
    items.reverse.findSome? f = some value ↔
      ∃ before item after, items = before ++ item :: after ∧ f item = some value ∧
        ∀ later ∈ after, f later = none := by
  rw [findSome?_eq_some_iff]
  constructor
  · rintro ⟨after, item, before, split, found, none_⟩
    refine ⟨before.reverse, item, after.reverse, ?_, found, ?_⟩
    · rw [← reverse_inj, split]
      simp
    intro later member
    exact none_ later (mem_reverse.1 member)
  rintro ⟨before, item, after, rfl, found, none_⟩
  refine ⟨after.reverse, item, before.reverse, by simp, found, ?_⟩
  intro later member
  exact none_ later (mem_reverse.1 member)

theorem suffix_of_notMem {before before' after after' : List α} {item item' : α}
    (same : before ++ item :: after = before' ++ item' :: after') (last : item' ∉ after) :
    item :: after <:+ item' :: after' := by
  have first : item :: after <:+ before ++ item :: after := suffix_append _ _
  have second : item' :: after' <:+ before ++ item :: after := same ▸ suffix_append _ _
  obtain inside | inside := suffix_or_suffix_of_suffix first second
  · exact inside
  obtain equal | inside := suffix_cons_iff.1 inside
  · exact equal ▸ suffix_rfl
  · exact absurd (inside.subset mem_cons_self) last

end Wts
