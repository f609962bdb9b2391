/-
Module: Wts.Library.Regroup
Purpose: A sorted list is split into parts by a filter, the parts are put one after the other and
  sorted again.
-/
import Wts.Library.StableSort

namespace Wts.Regroup

open List Function StableSort

variable {ρ α β κ ε : Type*}

/-- The items of every part, in the order of the parts. -/
def gather (shows : ρ → α → Bool) (parts : List ρ) (items : List α) : List α :=
  parts.flatMap fun part => items.filter (shows part)

/-- The first part with an item. -/
def place (shows : ρ → α → Bool) (parts : List ρ) (item : α) : ℕ :=
  parts.findIdx fun part => shows part item

/-- The number of parts with an item. -/
def copies (shows : ρ → α → Bool) (parts : List ρ) (item : α) : ℕ :=
  parts.countP fun part => shows part item

/-! ### Gathering -/

section Gather

variable {shows : ρ → α → Bool} {part : ρ} {parts : List ρ} {items : List α} {item : α}

theorem gather_cons : gather shows (part :: parts) items =
    items.filter (shows part) ++ gather shows parts items :=
  flatMap_cons

theorem filter_gather (keep : α → Bool) :
    (gather shows parts items).filter keep = gather shows parts (items.filter keep) := by
  rw [gather, gather, filter_flatMap]
  congr 1
  funext part
  rw [filter_filter, filter_filter]
  congr 1
  funext item
  exact Bool.and_comm _ _

theorem place_cons_pos (shown : shows part item = true) : place shows (part :: parts) item = 0 := by
  rw [place, findIdx_cons, shown]
  rfl

theorem place_cons_neg (hidden : shows part item = false) :
    place shows (part :: parts) item = place shows parts item + 1 := by
  rw [place, findIdx_cons, hidden]
  rfl

theorem copies_cons : copies shows (part :: parts) item =
    copies shows parts item + if shows part item = true then 1 else 0 :=
  countP_cons

theorem gather_rest (once : ∀ item ∈ items, copies shows (part :: parts) item = 1) :
    gather shows parts items = gather shows parts (items.filter fun item => !shows part item) := by
  rw [gather, gather]
  apply flatMap_congr
  intro later isLater
  rw [filter_filter]
  apply filter_congr
  intro item member
  rcases hidden : shows part item with _ | _
  · rw [Bool.not_false, Bool.and_true]
  have none := once item member
  rw [copies_cons, hidden, if_pos rfl, Nat.add_eq_right, copies, countP_eq_zero] at none
  rw [Bool.not_true, Bool.and_false]
  exact Bool.eq_false_of_not_eq_true (none later isLater)

theorem copies_rest (once : ∀ item ∈ items, copies shows (part :: parts) item = 1) :
    ∀ item ∈ items.filter (fun item => !shows part item), copies shows parts item = 1 := by
  intro item member
  obtain ⟨inItems, hidden⟩ := mem_filter.1 member
  rw [Bool.not_eq_true'] at hidden
  have one := once item inItems
  rwa [copies_cons, hidden, if_neg Bool.false_ne_true, Nat.add_zero] at one

theorem gather_eq_self (once : ∀ item ∈ items, copies shows parts item = 1)
    (ordered : items.Pairwise fun first second =>
      place shows parts first ≤ place shows parts second) : gather shows parts items = items := by
  induction parts generalizing items with
  | nil =>
    cases items with
    | nil => rfl
    | cons item rest => exact absurd (once item mem_cons_self) (by simp [copies])
  | cons part parts ih =>
    have split := eq_filter_append_filter (place shows (part :: parts)) 0 ordered
    have shown : items.filter (fun item => place shows (part :: parts) item = 0) =
        items.filter (shows part) := by
      apply filter_congr
      intro item _
      rcases isShown : shows part item with _ | _
      · rw [place_cons_neg isShown]
        rfl
      rw [place_cons_pos isShown]
      rfl
    have hidden : items.filter (fun item => 0 < place shows (part :: parts) item) =
        items.filter fun item => !shows part item := by
      apply filter_congr
      intro item _
      rcases isShown : shows part item with _ | _
      · rw [place_cons_neg isShown]
        exact decide_eq_true (Nat.succ_pos _)
      rw [place_cons_pos isShown]
      rfl
    have none : items.filter (fun item => place shows (part :: parts) item < 0) = [] :=
      filter_eq_nil_iff.2 fun item _ below => Nat.not_lt_zero _ (of_decide_eq_true below)
    rw [none, nil_append, shown, hidden] at split
    rw [gather_cons, gather_rest once, ih (copies_rest once)]
    · exact split.symm
    have kept := ordered.sublist (filter_sublist (p := fun item => !shows part item))
    refine kept.imp_of_mem ?_
    intro first second isFirst isSecond ordered
    have firstHidden := (mem_filter.1 isFirst).2
    have secondHidden := (mem_filter.1 isSecond).2
    rw [Bool.not_eq_true'] at firstHidden secondHidden
    rwa [place_cons_neg firstHidden, place_cons_neg secondHidden, Nat.add_le_add_iff_right]
      at ordered

theorem pairwise_gather (once : ∀ item ∈ items, copies shows parts item = 1) :
    (gather shows parts items).Pairwise fun first second =>
      place shows parts first ≤ place shows parts second := by
  induction parts generalizing items with
  | nil => exact List.Pairwise.nil
  | cons part parts ih =>
    rw [gather_cons, gather_rest once, pairwise_append]
    have first : ∀ item ∈ items.filter (shows part), place shows (part :: parts) item = 0 :=
      fun item member => place_cons_pos (mem_filter.1 member).2
    have later : ∀ item ∈ gather shows parts (items.filter fun item => !shows part item),
        place shows (part :: parts) item = place shows parts item + 1 := by
      intro item member
      obtain ⟨_, _, inPart⟩ := mem_flatMap.1 member
      have hidden := (mem_filter.1 (mem_filter.1 inPart).1).2
      rw [Bool.not_eq_true'] at hidden
      exact place_cons_neg hidden
    refine ⟨?_, ?_, ?_⟩
    · refine pairwise_of_forall_mem_list ?_
      intro left isLeft right _
      rw [first left isLeft]
      exact Nat.zero_le _
    · refine (ih (copies_rest once)).imp_of_mem ?_
      intro left right isLeft isRight ordered
      rw [later left isLeft, later right isRight]
      exact Nat.add_le_add_right ordered 1
    intro left isLeft right _
    rw [first left isLeft]
    exact Nat.zero_le _

theorem count_gather [DecidableEq α] (item : α) :
    (gather shows parts items).count item = copies shows parts item * items.count item := by
  induction parts with
  | nil => simp [gather, copies]
  | cons part parts ih =>
    rw [gather_cons, count_append, ih, copies_cons, Nat.add_mul, Nat.add_comm]
    congr 1
    split_ifs with shown
    · rw [count_filter shown, Nat.one_mul]
    rw [Nat.zero_mul, count_eq_zero]
    exact fun member => shown (mem_filter.1 member).2

end Gather

section Sorting

variable [LinearOrder β] (key : α → β) {shows : ρ → α → Bool} {parts : List ρ} {items : List α}

/-- Each item is in one part, and items with one key are in the order of their parts. -/
structure Regroups (shows : ρ → α → Bool) (parts : List ρ) (items : List α) : Prop where
  once : ∀ item ∈ items, copies shows parts item = 1
  ties : items.Pairwise fun first second =>
    key first = key second → place shows parts first ≤ place shows parts second

theorem sort_gather_eq_iff [DecidableEq α]
    (sorted : items.Pairwise fun first second => key first ≤ key second) :
    (gather shows parts items).insertionSort (fun first second => key first ≤ key second) = items ↔
      Regroups key shows parts items := by
  have once_filter : (∀ item ∈ items, copies shows parts item = 1) → ∀ k,
      ∀ item ∈ items.filter (fun item => key item = k), copies shows parts item = 1 :=
    fun once k item member => once item (mem_filter.1 member).1
  constructor
  · intro same
    have once : ∀ item ∈ items, copies shows parts item = 1 := by
      intro item member
      have counts : (gather shows parts items).count item = items.count item := by
        conv_rhs => rw [← same]
        exact ((perm_insertionSort _ _).count_eq item).symm
      rw [count_gather] at counts
      exact Nat.eq_of_mul_eq_mul_right (count_pos_iff.2 member) (counts.trans (Nat.one_mul _).symm)
    refine ⟨once, ?_⟩
    have tied : ∀ k, (items.filter fun item => key item = k).Pairwise fun first second =>
        place shows parts first ≤ place shows parts second := by
      intro k
      have grouped := filter_key_insertionSort key k (gather shows parts items)
      rw [same, filter_gather] at grouped
      rw [grouped]
      exact pairwise_gather (once_filter once k)
    rw [pairwise_iff_forall_sublist]
    intro first second inside sameKey
    have inside' := inside.filter fun item => key item = key second
    simp only [filter_cons, sameKey, decide_true, if_true, filter_nil] at inside'
    exact (pairwise_iff_forall_sublist.1 (tied (key second))) inside'
  rintro ⟨once, ties⟩
  apply eq_of_filter_key_eq key (pairwise_insertionSort _ _) sorted
  intro k
  rw [filter_key_insertionSort, filter_gather]
  apply gather_eq_self (once_filter once k)
  rw [pairwise_filter]
  refine ties.imp ?_
  intro first second ordered isFirst isSecond
  exact ordered ((of_decide_eq_true isFirst).trans (of_decide_eq_true isSecond).symm)

theorem take_sort_gather [DecidableEq α] (shows : ρ → α → Bool) (parts : List ρ) {limit : ℕ}
    (short : items.length ≤ limit)
    (sorted : items.Pairwise fun first second => key first ≤ key second) :
    let again := ((gather shows parts items).insertionSort fun first second =>
      key first ≤ key second).take limit
    (Regroups key shows parts items → again = items) ∧
      (items.length < limit → again = items → Regroups key shows parts items) := by
  refine ⟨?_, ?_⟩
  · intro regroups
    rw [(sort_gather_eq_iff key sorted).2 regroups, take_of_length_le short]
  intro shorter same
  rw [← sort_gather_eq_iff key sorted]
  rw [← same, length_take] at shorter
  rwa [take_of_length_le] at same
  omega

end Sorting

theorem foldl_update [DecidableEq κ] (key : ρ → κ) (entry : ρ → ε) (parts : List ρ)
    (start : κ → Option ε) (k : κ) :
    parts.foldl (fun map part => update map (key part) (some (entry part))) start k =
      ((parts.reverse.find? fun part => key part = k).map entry).or (start k) := by
  induction parts using List.reverseRecOn with
  | nil => rfl
  | append_singleton parts part ih =>
    rw [foldl_append, foldl_cons, foldl_nil, reverse_append,
      reverse_singleton, singleton_append, find?_cons, update_apply]
    by_cases same : k = key part
    · rw [if_pos same, decide_eq_true same.symm]
      rfl
    rw [if_neg same, decide_eq_false (Ne.symm same)]
    exact ih

theorem isSome_foldl_update [DecidableEq κ] {key : ρ → κ} {entry : ρ → ε} {parts : List ρ}
    {start : κ → Option ε} {k : κ}
    (found : (parts.foldl (fun map part => update map (key part) (some (entry part)))
      start k).isSome) : (∃ part ∈ parts, key part = k) ∨ (start k).isSome := by
  rw [foldl_update] at found
  rcases last : parts.reverse.find? (fun part => key part = k) with _ | part
  · rw [last] at found
    exact Or.inr found
  have isKey := find?_some last
  exact Or.inl ⟨part, mem_reverse.1 (mem_of_find?_eq_some last), of_decide_eq_true isKey⟩

section Owner

variable [DecidableEq κ] (key : ρ → κ) (entry : ρ → ε) {parts : List ρ} {part : ρ}

/-- The last part with the key of a part. -/
def owner (parts : List ρ) (part : ρ) : ρ :=
  (parts.reverse.find? fun other => key other = key part).getD part

theorem foldl_update_owner (member : part ∈ parts) (start : κ → Option ε) :
    parts.foldl (fun map part => update map (key part) (some (entry part))) start (key part) =
      some (entry (owner key parts part)) := by
  rw [foldl_update, owner]
  rcases found : parts.reverse.find? (fun other => key other = key part) with _ | last
  · rw [find?_eq_none] at found
    exact absurd (decide_eq_true rfl) (found part (mem_reverse.2 member))
  · rfl

theorem filterMap_written (parts : List ρ) (start : κ → Option ε) : (parts.filterMap fun part =>
      parts.foldl (fun map part => update map (key part) (some (entry part))) start
        (key part)) = parts.map fun part => entry (owner key parts part) := by
  rw [← filterMap_eq_map]
  exact filterMap_congr fun part member => foldl_update_owner key entry member start

theorem flatMap_written (parts : List ρ) (held : ε → List α) {belongs : ρ → α → Bool} {items : List α}
    (split : ∀ part, held (entry part) = items.filter (belongs part)) (start : κ → Option ε) :
    (parts.filterMap fun part =>
      parts.foldl (fun map part => update map (key part) (some (entry part))) start
        (key part)).flatMap held = gather (fun part => belongs (owner key parts part)) parts items := by
  rw [filterMap_written, flatMap_map, gather]
  congr 1
  funext part
  exact split _

end Owner

end Wts.Regroup
