/-
Module: Wts.Library.Search
Purpose: The first place of a pattern in a list and the last place of an element, as `split_once` and
  `rfind` of a text find them.
-/
import Mathlib

namespace Wts.Search

open List

variable {α : Type} [DecidableEq α]

/-! ### The first place of a pattern -/

/-- What is before the first place of a pattern and what is after it. -/
def splitOnce (pattern : List α) : List α → Option (List α × List α)
  | [] => if pattern = [] then some ([], []) else none
  | item :: rest =>
    if pattern <+: item :: rest then
      some ([], (item :: rest).drop pattern.length)
    else
      (splitOnce pattern rest).map fun (before, after) => (item :: before, after)

variable {pattern items before after : List α}

theorem splitOnce_eq_some (found : splitOnce pattern items = some (before, after)) :
    items = before ++ pattern ++ after := by
  induction items generalizing before with
  | nil =>
    simp only [splitOnce] at found
    split at found
    · rename_i empty
      cases found
      simp [empty]
    · cases found
  | cons item rest ih =>
    simp only [splitOnce] at found
    split at found
    · rename_i here
      cases found
      obtain ⟨tail, same⟩ := here
      rw [← same, drop_left, nil_append]
    obtain ⟨⟨first, second⟩, later, same⟩ := Option.map_eq_some_iff.1 found
    cases same
    rw [ih later, cons_append, cons_append]

theorem splitOnce_eq_none_iff {pattern items : List α} :
    splitOnce pattern items = none ↔ ¬pattern <:+: items := by
  induction items with
  | nil => simp [splitOnce]
  | cons item rest ih =>
    simp only [splitOnce, infix_cons_iff]
    split
    · rename_i here
      simp [here]
    rename_i here
    simp [here, ih]

theorem splitOnce_append (found : splitOnce pattern items = some (before, after)) (more : List α) :
    splitOnce pattern (items ++ more) = some (before, after ++ more) := by
  induction items generalizing before with
  | nil =>
    simp only [splitOnce] at found
    split at found
    · rename_i empty
      cases found
      subst empty
      cases more <;> simp [splitOnce]
    · cases found
  | cons item rest ih =>
    have whole := splitOnce_eq_some found
    simp only [splitOnce] at found
    rw [cons_append, splitOnce]
    split at found
    · rename_i here
      cases found
      obtain ⟨tail, same⟩ := here
      rw [if_pos ⟨tail ++ more, by rw [← append_assoc, same, cons_append]⟩,
        ← cons_append, ← same, append_assoc, drop_left, drop_left]
    rename_i here
    obtain ⟨⟨first, second⟩, later, same⟩ := Option.map_eq_some_iff.1 found
    cases same
    rw [if_neg, ih later]
    · rfl
    -- a pattern at the start would already be in the shorter text
    intro start
    apply here
    apply prefix_of_prefix_length_le start (prefix_append (item :: rest) more)
    rw [whole]
    simp only [length_append, length_cons]
    exact Nat.le_trans (Nat.le_add_left _ _) (Nat.le_add_right _ _)

theorem splitOnce_of_notMem {item : α} {pattern before after : List α} (absent : item ∉ before) :
    splitOnce (item :: pattern) (before ++ item :: pattern ++ after) = some (before, after) := by
  induction before with
  | nil => simp [splitOnce]
  | cons first before ih =>
    have other : first ≠ item := fun same => absent (same ▸ mem_cons_self)
    have later := ih fun member => absent (mem_cons_of_mem _ member)
    rw [cons_append, cons_append, splitOnce, if_neg, later]
    · rfl
    rw [cons_prefix_cons]
    exact fun start => other start.1.symm

theorem splitOnce_start (found : splitOnce pattern items = some (before, after)) :
    splitOnce pattern (before ++ pattern) = some (before, []) := by
  induction items generalizing before with
  | nil =>
    simp only [splitOnce] at found
    split at found
    · rename_i empty
      cases found
      simp [splitOnce, empty]
    · cases found
  | cons item rest ih =>
    have whole := splitOnce_eq_some found
    simp only [splitOnce] at found
    split at found
    · cases found
      cases pattern <;> simp [splitOnce]
    rename_i here
    obtain ⟨⟨first, second⟩, later, same⟩ := Option.map_eq_some_iff.1 found
    cases same
    rw [cons_append, splitOnce, if_neg, ih later]
    · rfl
    intro start
    apply here
    rw [whole, cons_append, cons_append]
    exact start.trans (prefix_append _ second)

omit [DecidableEq α] in
theorem prefix_of_prefix_append_cons {pattern first rest : List α} {item : α}
    (absent : item ∉ pattern) (start : pattern <+: first ++ item :: rest) : pattern <+: first := by
  by_cases short : pattern.length ≤ first.length
  · exact prefix_of_prefix_length_le start (prefix_append _ _) short
  exfalso
  have through : first ++ [item] <+: first ++ item :: rest :=
    (prefix_append_right_inj first).2 ⟨rest, rfl⟩
  have inside : first ++ [item] <+: pattern := by
    apply prefix_of_prefix_length_le through start
    rw [length_append, length_singleton]
    exact Nat.not_le.1 short
  exact absent (inside.subset (mem_append_right _ mem_cons_self))

omit [DecidableEq α] in
theorem infix_append_cons {pattern first rest : List α} {item : α} (absent : item ∉ pattern)
    (inside : pattern <:+: first ++ item :: rest) : pattern <:+: first ∨ pattern <:+: rest := by
  induction first with
  | nil =>
    obtain start | later := infix_cons_iff.1 inside
    · exact .inl (prefix_of_prefix_append_cons absent start).isInfix
    · exact .inr later
  | cons head first ih =>
    obtain start | later := infix_cons_iff.1 inside
    · exact .inl (prefix_of_prefix_append_cons absent start).isInfix
    · exact (ih later).imp_left fun found => found.trans (suffix_cons head first).isInfix

/-- What is after the last place of an element. -/
def afterLast (separator : α) : List α → Option (List α)
  | [] => none
  | item :: rest =>
    match afterLast separator rest with
    | some tail => some tail
    | none => if item = separator then some rest else none

variable {separator : α}

theorem afterLast_eq_none_iff {items : List α} :
    afterLast separator items = none ↔ separator ∉ items := by
  induction items with
  | nil => simp [afterLast]
  | cons item rest ih =>
    rw [afterLast, mem_cons, not_or, ← ih]
    cases afterLast separator rest with
    | none => by_cases here : item = separator <;> simp [here, Ne.symm, eq_comm]
    | some tail => simp

theorem afterLast_append (before : List α) {rest : List α}
    (absent : separator ∉ rest) : afterLast separator (before ++ separator :: rest) = some rest := by
  induction before with
  | nil => rw [nil_append, afterLast, afterLast_eq_none_iff.2 absent]; exact if_pos rfl
  | cons item before ih => rw [cons_append, afterLast, ih]

theorem afterLast_append_some (before : List α) {rest tail : List α}
    (found : afterLast separator rest = some tail) :
    afterLast separator (before ++ rest) = some tail := by
  induction before with
  | nil => exact found
  | cons item before ih => rw [cons_append, afterLast, ih]

theorem afterLast_append_cons (before rest : List α) :
    afterLast separator (before ++ separator :: rest) =
      some ((afterLast separator rest).getD rest) := by
  cases found : afterLast separator rest with
  | none => exact afterLast_append before (afterLast_eq_none_iff.1 found)
  | some tail =>
    have later := afterLast_append_some (before ++ [separator]) found
    rwa [append_assoc] at later

theorem afterLast_eq_some_iff {items tail : List α} : afterLast separator items = some tail ↔
      ∃ before, items = before ++ separator :: tail ∧ separator ∉ tail := by
  constructor
  · intro found
    induction items with
    | nil => cases found
    | cons item rest ih =>
      rw [afterLast] at found
      cases later : afterLast separator rest with
      | some other =>
        rw [later] at found
        cases found
        obtain ⟨before, same, absent⟩ := ih later
        exact ⟨item :: before, by rw [same, cons_append], absent⟩
      | none =>
        rw [later] at found
        by_cases here : item = separator
        · simp only [here, if_true, Option.some.injEq] at found
          subst found
          exact ⟨[], by rw [here, nil_append], afterLast_eq_none_iff.1 later⟩
        · simp [here] at found
  rintro ⟨before, rfl, absent⟩
  exact afterLast_append before absent

omit [DecidableEq α] in
theorem takeWhile_append_of_stop {keep : α → Bool} {first : List α} (rest : List α)
    (stops : ∃ item ∈ first, keep item = false) :
    (first ++ rest).takeWhile keep = first.takeWhile keep := by
  rw [takeWhile_append, if_neg]
  intro all
  obtain ⟨item, member, stop⟩ := stops
  have whole : first.takeWhile keep = first := (List.takeWhile_prefix keep).eq_of_length all
  have kept := mem_takeWhile_imp (whole.symm ▸ member)
  rw [stop] at kept
  exact Bool.false_ne_true kept

end Wts.Search
