/-
Module: Wts.Library.BestChoice
Purpose: Choosing one option for every index so that all chosen options fit together, and the best
  such choice.
-/
import Wts.Library.StableSort

namespace Wts.BestChoice

open List Function

section Best

variable {α β : Type*} [LinearOrder β] (key : α → β)

/-- Keep the candidate if there is nothing yet, or if its key is smaller. -/
def keep (best : Option α) (candidate : α) : Option α :=
  match best with
  | none => some candidate
  | some current => if key candidate < key current then some candidate else some current

variable {best : Option α}

theorem keep_eq_some {candidate found : α} (kept : keep key best candidate = some found) :
    (found = candidate ∨ best = some found) ∧ key found ≤ key candidate ∧
      ∀ current, best = some current → key found ≤ key current := by
  cases best with
  | none =>
    cases kept
    exact ⟨.inl rfl, le_rfl, fun _ none => nomatch none⟩
  | some current =>
    simp only [keep] at kept
    split at kept
    · rename_i better
      cases kept
      refine ⟨.inl rfl, le_rfl, fun other same => ?_⟩
      cases same
      exact better.le
    rename_i worse
    cases kept
    refine ⟨.inr rfl, not_lt.1 worse, fun other same => ?_⟩
    cases same
    exact le_rfl

theorem foldl_keep_eq_some {items : List α} {found : α}
    (kept : items.foldl (keep key) best = some found) :
    (found ∈ items ∨ best = some found) ∧ (∀ item ∈ items, key found ≤ key item) ∧
      ∀ current, best = some current → key found ≤ key current := by
  induction items generalizing best with
  | nil =>
    refine ⟨.inr kept, fun _ inside => (not_mem_nil inside).elim, fun current same => ?_⟩
    rw [foldl_nil, same] at kept
    cases kept
    exact le_rfl
  | cons item rest ih =>
    rw [foldl_cons] at kept
    obtain ⟨origin, below, start⟩ := ih kept
    have first : ∀ current, keep key best item = some current → key found ≤ key current := start
    obtain ⟨current, stepped⟩ : ∃ current, keep key best item = some current := by
      cases best with
      | none => exact ⟨_, rfl⟩
      | some current =>
        simp only [keep]
        split
        · exact ⟨_, rfl⟩
        exact ⟨_, rfl⟩
    obtain ⟨source, belowItem, belowBest⟩ := keep_eq_some key stepped
    refine ⟨?_, ?_, fun other same => (first current stepped).trans (belowBest other same)⟩
    · rcases origin with later | here
      · exact .inl (mem_cons_of_mem _ later)
      · cases stepped.symm.trans here
        rcases source with same | before
        · exact .inl (same ▸ mem_cons_self)
        exact .inr before
    intro other inside
    rcases mem_cons.1 inside with same | later
    · exact same ▸ (first current stepped).trans belowItem
    exact below other later

theorem foldl_keep_eq_none_iff {items : List α} :
    items.foldl (keep key) best = none ↔ items = [] ∧ best = none := by
  induction items generalizing best with
  | nil => simp
  | cons item rest ih =>
    rw [foldl_cons, ih]
    cases best with
    | none => simp [keep]
    | some current =>
      simp only [keep]
      split
      · simp
      simp

end Best

/-! ### Backtracking -/

section Backtracking

variable {ι α : Type*} (options : ι → List α) (allows : α → α → Bool)

/-- The complete choices below a partial one, in the order in which a backtracking search meets them. -/
def explore : List ι → List α → List (List α)
  | [], chosen => [chosen]
  | index :: rest, chosen =>
    (options index).flatMap fun candidate =>
      if chosen.all fun existing => allows existing candidate then
        explore rest (chosen ++ [candidate])
      else
        []

theorem mem_explore_iff {indices : List ι} {chosen choice : List α} :
    choice ∈ explore options allows indices chosen ↔ ∃ tail, choice = chosen ++ tail ∧
        List.Forall₂ (fun index candidate => candidate ∈ options index) indices tail ∧
        tail.Pairwise (fun first second => allows first second = true) ∧
        ∀ existing ∈ chosen, ∀ candidate ∈ tail, allows existing candidate = true := by
  induction indices generalizing chosen with
  | nil =>
    simp only [explore, mem_singleton, forall₂_nil_left_iff]
    constructor
    · intro same
      exact ⟨[], by rw [append_nil, same], rfl, .nil, fun _ _ _ none => by cases none⟩
    intro ⟨tail, same, empty, _⟩
    rw [same, empty, append_nil]
  | cons index rest ih =>
    simp only [explore, mem_flatMap]
    constructor
    · intro ⟨candidate, offered, met⟩
      split at met
      · rename_i fits
        obtain ⟨tail, same, each, pairs, across⟩ := ih.1 met
        refine ⟨candidate :: tail, by rw [same, append_assoc, singleton_append],
          .cons offered each, ?_, ?_⟩
        · exact pairwise_cons.2 ⟨fun other inside => across candidate (by simp) other inside, pairs⟩
        intro existing before other inside
        rcases mem_cons.1 inside with here | later
        · exact here ▸ all_eq_true.1 fits existing before
        exact across existing (mem_append_left _ before) other later
      cases met
    intro ⟨tail, same, each, pairs, across⟩
    cases each with
    | @cons _ candidate _ tail offered others =>
      obtain ⟨first, pairs⟩ := pairwise_cons.1 pairs
      have fits : (chosen.all fun existing => allows existing candidate) = true :=
        all_eq_true.2 fun existing before =>
          across existing before candidate mem_cons_self
      refine ⟨candidate, offered, ?_⟩
      rw [if_pos fits]
      refine ih.2 ⟨tail, by rw [same, append_assoc, singleton_append], others, pairs, ?_⟩
      intro existing before other inside
      rcases mem_append.1 before with earlier | here
      · exact across existing earlier other (mem_cons_of_mem _ inside)
      rw [mem_singleton.1 here]
      exact first other inside

theorem exists_map_of_forall₂ {R : ι → α → Prop} {indices : List ι} {items : List α}
    (related : List.Forall₂ R indices items) (distinct : indices.Nodup) [Inhabited α] :
    ∃ f : ι → α, items = indices.map f ∧ ∀ index ∈ indices, R index (f index) := by
  classical
  induction related with
  | nil => exact ⟨fun _ => default, rfl, fun _ none => (not_mem_nil none).elim⟩
  | @cons index item indices items first _ ih =>
    obtain ⟨fresh, distinct⟩ := nodup_cons.1 distinct
    obtain ⟨f, same, each⟩ := ih distinct
    have kept : ∀ other ∈ indices, update f index item other = f other := by
      intro other inside
      exact update_of_ne (fun equal : other = index => fresh (equal ▸ inside)) _ _
    refine ⟨update f index item, ?_, ?_⟩
    · rw [map_cons, update_self, map_congr_left kept, same]
    intro other inside
    rcases mem_cons.1 inside with here | later
    · rw [here, update_self]
      exact first
    rw [kept other later]
    exact each other later

end Backtracking

/-! ### Distinct items of a sorted list

A list is sorted by a key and then neighbours with one label are merged. A label may come back later in
the list, but not with a key that was seen before. -/

section Distinct

variable {α κ γ : Type*} [LinearOrder κ] (key : α → κ) (label : α → γ) [DecidableEq γ]

theorem destutter'_of_ne {first second : α} (rest : List α) (apart : label first ≠ label second) :
    (second :: rest).destutter' (fun a b => label a ≠ label b) first =
      first :: rest.destutter' (fun a b => label a ≠ label b) second :=
  destutter'_cons_pos (R := fun a b => label a ≠ label b) rest apart

theorem destutter'_of_eq {first second : α} (rest : List α) (same : label first = label second) :
    (second :: rest).destutter' (fun a b => label a ≠ label b) first =
      rest.destutter' (fun a b => label a ≠ label b) first :=
  destutter'_cons_neg (R := fun a b => label a ≠ label b) rest (not_not.2 same)

theorem exists_mem_destutter' {first : α} {rest : List α}
    (sorted : (first :: rest).Pairwise fun a b => key a ≤ key b) {item : α}
    (member : item ∈ first :: rest) : ∃ kept ∈ rest.destutter' (fun a b => label a ≠ label b) first,
      label kept = label item ∧ key kept ≤ key item := by
  induction rest generalizing first item with
  | nil =>
    rw [mem_singleton.1 member]
    exact ⟨first, mem_singleton.2 rfl, rfl, le_rfl⟩
  | cons second rest ih =>
    obtain ⟨below, sortedRest⟩ := pairwise_cons.1 sorted
    by_cases apart : label first ≠ label second
    · rw [destutter'_of_ne label rest apart]
      rcases mem_cons.1 member with rfl | later
      · exact ⟨item, mem_cons_self, rfl, le_rfl⟩
      obtain ⟨kept, inside, same, le⟩ := ih sortedRest later
      exact ⟨kept, mem_cons_of_mem _ inside, same, le⟩
    rw [destutter'_of_eq label rest (not_not.1 apart)]
    have sortedFirst : (first :: rest).Pairwise fun a b => key a ≤ key b :=
      pairwise_cons.2 ⟨fun other inside => below other (mem_cons_of_mem _ inside),
        (pairwise_cons.1 sortedRest).2⟩
    rcases mem_cons.1 member with rfl | later
    · exact ih sortedFirst mem_cons_self
    rcases mem_cons.1 later with rfl | last
    · obtain ⟨kept, inside, same, le⟩ := ih sortedFirst mem_cons_self
      exact ⟨kept, inside, same.trans (not_not.1 apart), le.trans (below item mem_cons_self)⟩
    exact ih sortedFirst (mem_cons_of_mem _ last)

theorem exists_mem_destutter {items : List α} (sorted : items.Pairwise fun a b => key a ≤ key b)
    {item : α} (member : item ∈ items) : ∃ kept ∈ items.destutter (fun a b => label a ≠ label b),
      label kept = label item ∧ key kept ≤ key item := by
  cases items with
  | nil => cases member
  | cons first rest => exact exists_mem_destutter' key label sorted member

variable (determined : ∀ a b, key a = key b → label a = label b)

include determined

theorem eq_first_of_key_eq {first dropped kept : α} {rest : List α}
    (sorted : (first :: rest).Pairwise fun a b => key a ≤ key b)
    (inside : kept ∈ rest.destutter' (fun a b => label a ≠ label b) first)
    (below : ∀ item ∈ rest, key dropped ≤ key item) (same : label dropped = label first)
    (sameKey : key dropped = key kept) : kept = first := by
  induction rest with
  | nil => exact mem_singleton.1 inside
  | cons second rest ih =>
    obtain ⟨firstBelow, sortedRest⟩ := pairwise_cons.1 sorted
    by_cases apart : label first ≠ label second
    · rw [destutter'_of_ne label rest apart] at inside
      rcases mem_cons.1 inside with here | later
      · exact here
      have member := (destutter'_sublist _ _ _).subset later
      have secondBelow : key second ≤ key kept := by
        rcases mem_cons.1 member with rfl | last
        · exact le_rfl
        exact (pairwise_cons.1 sortedRest).1 kept last
      have equal := le_antisymm (below second mem_cons_self) (sameKey ▸ secondBelow)
      exact absurd (same.symm.trans (determined _ _ equal)) apart
    rw [destutter'_of_eq label rest (not_not.1 apart)] at inside
    refine ih ?_ inside fun item later => below item (mem_cons_of_mem _ later)
    exact pairwise_cons.2 ⟨fun other later => firstBelow other (mem_cons_of_mem _ later),
      (pairwise_cons.1 sortedRest).2⟩

theorem find?_of_mem_destutter' {first kept : α} {rest : List α}
    (sorted : (first :: rest).Pairwise fun a b => key a ≤ key b)
    (inside : kept ∈ rest.destutter' (fun a b => label a ≠ label b) first) :
    (first :: rest).find? (fun item => key item = key kept) = some kept := by
  by_cases atFirst : key first = key kept
  · -- the first item has the key, so it is the one that is kept for it
    have same : kept = first := by
      refine eq_first_of_key_eq key label determined sorted inside (fun item later => ?_) rfl atFirst
      exact (pairwise_cons.1 sorted).1 item later
    rw [same, find?_cons_of_pos (by simp)]
  rw [find?_cons_of_neg (by simpa using atFirst)]
  induction rest generalizing first with
  | nil => exact absurd (congrArg key (mem_singleton.1 inside)).symm atFirst
  | cons second rest ih =>
    obtain ⟨below, sortedRest⟩ := pairwise_cons.1 sorted
    by_cases apart : label first ≠ label second
    · rw [destutter'_of_ne label rest apart] at inside
      have later : kept ∈ rest.destutter' (fun a b => label a ≠ label b) second := by
        refine (mem_cons.1 inside).resolve_left fun same => ?_
        exact atFirst (congrArg key same).symm
      by_cases atSecond : key second = key kept
      · have same : kept = second := by
          refine eq_first_of_key_eq key label determined sortedRest later
            (fun item inRest => ?_) rfl atSecond
          exact (pairwise_cons.1 sortedRest).1 item inRest
        rw [same, find?_cons_of_pos (by simp)]
      rw [find?_cons_of_neg (by simpa using atSecond)]
      exact ih sortedRest later atSecond
    rw [destutter'_of_eq label rest (not_not.1 apart)] at inside
    have sortedFirst : (first :: rest).Pairwise fun a b => key a ≤ key b :=
      pairwise_cons.2 ⟨fun other inRest => below other (mem_cons_of_mem _ inRest),
        (pairwise_cons.1 sortedRest).2⟩
    have other : key second ≠ key kept := by
      intro same
      refine atFirst (congrArg key ?_).symm
      exact eq_first_of_key_eq key label determined sortedFirst inside
        (fun item inRest => (pairwise_cons.1 sortedRest).1 item inRest)
        (not_not.1 apart).symm same
    rw [find?_cons_of_neg (by simpa using other)]
    exact ih sortedFirst inside atFirst

theorem find?_of_mem_destutter {items : List α} (sorted : items.Pairwise fun a b => key a ≤ key b)
    {kept : α} (inside : kept ∈ items.destutter (fun a b => label a ≠ label b)) :
    items.find? (fun item => key item = key kept) = some kept := by
  cases items with
  | nil => cases inside
  | cons first rest => exact find?_of_mem_destutter' key label determined sorted inside

end Distinct

section First

variable {α κ : Type*} [LinearOrder κ] (key : α → κ)

theorem key_le_of_find? {items : List α} (sorted : items.Pairwise fun a b => key a ≤ key b)
    {test : α → Bool} {found : α} (first : items.find? test = some found) {item : α}
    (member : item ∈ items) (passes : test item = true) : key found ≤ key item := by
  obtain ⟨_, before, after, split, failed⟩ := find?_eq_some_iff_append.1 first
  rw [split] at member sorted
  rcases mem_append.1 member with earlier | later
  · exact absurd passes (by simpa using failed item earlier)
  rcases mem_cons.1 later with here | rest
  · rw [here]
  exact (pairwise_cons.1 (pairwise_append.1 sorted).2.1).1 item rest

theorem find?_of_find? {items : List α} {test narrow : α → Bool} {found : α}
    (first : items.find? test = some found) (passes : narrow found = true)
    (narrower : ∀ item, narrow item = true → test item = true) :
    items.find? narrow = some found := by
  obtain ⟨_, before, after, split, failed⟩ := find?_eq_some_iff_append.1 first
  refine find?_eq_some_iff_append.2 ⟨passes, before, after, split, fun item inside => ?_⟩
  have refused := failed item inside
  simp only [Bool.not_eq_true', Bool.eq_false_iff] at refused ⊢
  exact fun accepted => refused (narrower item accepted)

theorem find?_insertionSort (items : List α) (k : κ) :
    (items.insertionSort fun a b => key a ≤ key b).find? (fun item => key item = k) =
      items.find? fun item => key item = k := by
  rw [← head?_filter, ← head?_filter, StableSort.filter_key_insertionSort]

end First

end Wts.BestChoice
