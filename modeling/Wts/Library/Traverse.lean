/-
Module: Wts.Library.Traverse
Purpose: A fallible function over a list: the traversal succeeds if and only if every element does, and
  then its results stand at the places of the elements.
-/
import Mathlib

namespace Wts.Traverse

open List

variable {α β ε : Type} {f : α → Except ε β} {items : List α} {results : List β}

theorem mapM_cons_eq_ok {item : α} : (item :: items).mapM f = .ok results ↔
      ∃ result rest, f item = .ok result ∧ items.mapM f = .ok rest ∧ results = result :: rest := by
  rw [mapM_cons]
  cases first : f item with
  | error error => simp [bind, Except.bind]
  | ok result =>
    cases others : items.mapM f with
    | error error => simp [bind, Except.bind]
    | ok rest => simp [bind, Except.bind, pure, Except.pure, eq_comm]

theorem mapM_eq_ok_iff : items.mapM f = .ok results ↔
      List.Forall₂ (fun item result => f item = .ok result) items results := by
  induction items generalizing results with
  | nil => simp [pure, Except.pure, eq_comm]
  | cons item rest ih =>
    rw [mapM_cons_eq_ok]
    constructor
    · rintro ⟨result, others, first, second, rfl⟩
      exact .cons first (ih.1 second)
    rintro (_ | ⟨first, second⟩)
    exact ⟨_, _, first, ih.2 second, rfl⟩

theorem exists_mapM_eq_ok (succeeds : ∀ item ∈ items, ∃ result, f item = .ok result) :
    ∃ results, items.mapM f = .ok results := by
  induction items with
  | nil => exact ⟨[], rfl⟩
  | cons item rest ih =>
    obtain ⟨result, first⟩ := succeeds item mem_cons_self
    obtain ⟨others, second⟩ := ih fun other member =>
      succeeds other (mem_cons_of_mem item member)
    exact ⟨result :: others, mapM_cons_eq_ok.2 ⟨result, others, first, second, rfl⟩⟩

theorem mem_of_mapM_eq_ok (traversed : items.mapM f = .ok results) {item : α} {result : β}
    (member : item ∈ items) (found : f item = .ok result) : result ∈ results := by
  have pairs := mapM_eq_ok_iff.1 traversed
  clear traversed
  induction pairs with
  | nil => cases member
  | cons first rest ih =>
    rcases mem_cons.1 member with rfl | later
    · obtain rfl := Except.ok.inj (first.symm.trans found)
      exact mem_cons_self
    · exact mem_cons_of_mem _ (ih later)

/-! ### Relations between lists -/

section Relations

variable {γ : Type} {R : α → β → Prop} {S : β → γ → Prop} {firsts : List α} {seconds : List β}
  {thirds : List γ}

theorem forall₂_comp (first : List.Forall₂ R firsts seconds) (second : List.Forall₂ S seconds thirds) :
    List.Forall₂ (fun a c => ∃ b, R a b ∧ S b c) firsts thirds := by
  induction first generalizing thirds with
  | nil =>
    cases second
    exact .nil
  | cons related _ ih =>
    cases second with
    | cons next others => exact .cons ⟨_, related, next⟩ (ih others)

theorem forall₂_zip (first : List.Forall₂ R firsts seconds) (second : List.Forall₂ S seconds thirds) :
    List.Forall₂ (fun pair c => R pair.1 pair.2 ∧ S pair.2 c) (firsts.zip seconds) thirds := by
  induction first generalizing thirds with
  | nil =>
    cases second
    exact .nil
  | cons related _ ih =>
    cases second with
    | cons next others => exact .cons ⟨related, next⟩ (ih others)

theorem forall₂_mem_left (related : List.Forall₂ R firsts seconds) {a : α} (member : a ∈ firsts) :
    ∃ b, (a, b) ∈ firsts.zip seconds ∧ R a b := by
  induction related with
  | nil => cases member
  | cons first _ ih =>
    obtain here | later := mem_cons.1 member
    · subst here
      exact ⟨_, mem_cons_self, first⟩
    obtain ⟨b, inside, holds⟩ := ih later
    exact ⟨b, mem_cons_of_mem _ inside, holds⟩

theorem forall₂_of_mem_zip (related : List.Forall₂ R firsts seconds) {a : α} {b : β}
    (member : (a, b) ∈ firsts.zip seconds) : R a b := by
  induction related with
  | nil => cases member
  | cons first _ ih =>
    obtain here | later := mem_cons.1 member
    · cases here
      exact first
    · exact ih later

end Relations

end Wts.Traverse
