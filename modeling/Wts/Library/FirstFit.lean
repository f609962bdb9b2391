/-
Module: Wts.Library.FirstFit
Purpose: First-fit allocation of numbered slots.
-/
import Mathlib

namespace Wts.FirstFit

open Finset List

/-- The least slot in `[p, top]` that is not taken. -/
def firstFree (top : ℕ) (taken : Finset ℕ) (p : ℕ) : Option ℕ :=
  (List.range' p (top + 1 - p)).find? fun slot => slot ∉ taken

variable {taken final : Finset ℕ} {top p slot q a : ℕ}

theorem firstFree_eq_some_iff : firstFree top taken p = some slot ↔
      p ≤ slot ∧ slot ≤ top ∧ slot ∉ taken ∧ ∀ x, p ≤ x → x < slot → x ∈ taken := by
  rw [firstFree, find?_range'_eq_some]
  simp only [decide_eq_true_eq, mem_range'_1, Bool.not_eq_true', decide_eq_false_iff_not,
    not_not]
  constructor
  · rintro ⟨free, ⟨lower, upper⟩, least⟩
    exact ⟨lower, by omega, free, least⟩
  rintro ⟨lower, upper, free, least⟩
  exact ⟨free, ⟨lower, by omega⟩, least⟩

theorem firstFree_eq_none_iff :
    firstFree top taken p = none ↔ ∀ x, p ≤ x → x ≤ top → x ∈ taken := by
  rw [firstFree, find?_range'_eq_none]
  simp only [Bool.not_eq_true', decide_eq_false_iff_not, not_not]
  constructor
  · intro full x lower upper
    exact full x lower (by omega)
  intro full x lower upper
  exact full x lower (by omega)

theorem firstFree_eq_of_le (hpq : p ≤ q) (hq : q ≤ top) :
    firstFree top taken p = firstFree top taken q ↔ ∀ x, p ≤ x → x < q → x ∈ taken := by
  constructor
  · intro same x lower upper
    cases hp : firstFree top taken p with
    | none => exact firstFree_eq_none_iff.1 hp x lower (by omega)
    | some slot =>
      have below := (firstFree_eq_some_iff.1 hp).2.2.2
      rw [hp] at same
      have atLeast := (firstFree_eq_some_iff.1 same.symm).1
      exact below x lower (by omega)
  intro full
  cases hqf : firstFree top taken q with
  | none =>
    rw [firstFree_eq_none_iff] at hqf ⊢
    intro x lower upper
    by_cases hx : x < q
    · exact full x lower hx
    · exact hqf x (by omega) upper
  | some slot =>
    rw [firstFree_eq_some_iff] at hqf ⊢
    obtain ⟨lower, upper, free, least⟩ := hqf
    refine ⟨by omega, upper, free, fun x hx hlt => ?_⟩
    by_cases hxq : x < q
    · exact full x hx hxq
    · exact least x (by omega) hlt

/-- Serve the requests in list order. The result is the list of assigned slots and the final set of
    taken slots, or `none` when some request finds no free slot. -/
def allocate (top : ℕ) : List ℕ → Finset ℕ → Option (List ℕ × Finset ℕ)
  | [], taken => some ([], taken)
  | p :: rest, taken =>
    match firstFree top taken p with
    | none => none
    | some slot =>
      match allocate top rest (insert slot taken) with
      | none => none
      | some (slots, final) => some (slot :: slots, final)

variable {slots first second requests : List ℕ}

theorem allocate_cons_eq_some {rest : List ℕ} :
    allocate top (p :: rest) taken = some (slots, final) ↔
      ∃ slot slots', firstFree top taken p = some slot ∧
        allocate top rest (insert slot taken) = some (slots', final) ∧ slots = slot :: slots' := by
  rw [allocate]
  constructor
  · intro done
    cases served : firstFree top taken p with
    | none => simp [served] at done
    | some slot =>
      cases later : allocate top rest (insert slot taken) with
      | none => simp [served, later] at done
      | some result =>
        obtain ⟨slots', final'⟩ := result
        simp only [served, later, Option.some.injEq, Prod.mk.injEq] at done
        obtain ⟨rfl, rfl⟩ := done
        exact ⟨slot, slots', rfl, later, rfl⟩
  rintro ⟨slot, slots', served, later, rfl⟩
  simp [served, later]

def freeSlots (taken : Finset ℕ) (a q : ℕ) : Finset ℕ :=
  (Finset.Icc a q).filter fun x => x ∉ taken

/-- The number of requests for a slot of the interval `[a, q]`. -/
def demand (requests : List ℕ) (a q : ℕ) : ℕ :=
  requests.countP fun p => decide (a ≤ p ∧ p ≤ q)

/-- Slot `q` ends an interval that has at least as many requests as free slots. -/
def Crowded (taken : Finset ℕ) (requests : List ℕ) (q : ℕ) : Prop :=
  ∃ a ≤ q, (freeSlots taken a q).card ≤ demand requests a q

/-- Some final segment `[a, top]` has more requests than free slots. -/
def Overfull (top : ℕ) (taken : Finset ℕ) (requests : List ℕ) : Prop :=
  ∃ a ≤ top, (freeSlots taken a top).card < demand requests a top

theorem demand_perm (same : first.Perm second) (a q : ℕ) : demand first a q = demand second a q :=
  same.countP_eq _

theorem Crowded.perm
    (same : first.Perm second) : Crowded taken first q ↔ Crowded taken second q := by
  simp only [Crowded, demand_perm same]

theorem Crowded.mono {few many : List ℕ} (crowded : Crowded taken few q)
    (sub : few.Subperm many) : Crowded taken many q := by
  obtain ⟨a, haq, enough⟩ := crowded
  exact ⟨a, haq, enough.trans (sub.countP_le _)⟩

theorem Overfull.perm
    (same : first.Perm second) : Overfull top taken first ↔ Overfull top taken second := by
  simp only [Overfull, demand_perm same]

theorem demand_cons (p : ℕ) (rest : List ℕ) (a q : ℕ) :
    demand (p :: rest) a q = demand rest a q + if a ≤ p ∧ p ≤ q then 1 else 0 := by
  simp [demand, countP_cons]

theorem demand_mono_left (requests : List ℕ) {b : ℕ} (q : ℕ) (hab : a ≤ b) :
    demand requests b q ≤ demand requests a q := by
  apply countP_mono_left
  intro p _ hp
  simp only [decide_eq_true_eq] at hp ⊢
  exact ⟨by omega, hp.2⟩

theorem card_freeSlots_insert_of_mem (free : slot ∉ taken) (lower : a ≤ slot) (upper : slot ≤ q) :
    (freeSlots taken a q).card = (freeSlots (insert slot taken) a q).card + 1 := by
  have member : slot ∈ freeSlots taken a q := by
    simp [freeSlots, free, lower, upper]
  have erased : freeSlots (insert slot taken) a q = (freeSlots taken a q).erase slot := by
    ext x
    simp only [freeSlots, Finset.mem_filter, mem_Icc, mem_insert, mem_erase]
    tauto
  rw [erased, card_erase_add_one member]

theorem freeSlots_insert_of_notMem (outside : ¬ (a ≤ slot ∧ slot ≤ q)) :
    freeSlots (insert slot taken) a q = freeSlots taken a q := by
  ext x
  simp only [freeSlots, Finset.mem_filter, mem_Icc, mem_insert]
  constructor
  · rintro ⟨bounds, hx⟩
    exact ⟨bounds, fun h => hx (.inr h)⟩
  rintro ⟨bounds, hx⟩
  refine ⟨bounds, ?_⟩
  rintro (rfl | h)
  · exact outside bounds
  · exact hx h

theorem freeSlots_extend_left {b : ℕ} (hab : a ≤ b)
    (full : ∀ x, a ≤ x → x < b → x ∈ taken) : freeSlots taken a q = freeSlots taken b q := by
  ext x
  simp only [freeSlots, Finset.mem_filter, mem_Icc]
  constructor
  · rintro ⟨⟨lower, upper⟩, hx⟩
    refine ⟨⟨?_, upper⟩, hx⟩
    by_contra below
    exact hx (full x lower (by omega))
  rintro ⟨⟨lower, upper⟩, hx⟩
  exact ⟨⟨by omega, upper⟩, hx⟩

section Step

variable {top p slot : ℕ} {taken : Finset ℕ} {rest : List ℕ}

theorem crowded_cons_iff (served : firstFree top taken p = some slot) (q : ℕ) :
    (q ∈ taken ∨ Crowded taken (p :: rest) q) ↔
      (q ∈ insert slot taken ∨ Crowded (insert slot taken) rest q) := by
  obtain ⟨lower, _, free, least⟩ := firstFree_eq_some_iff.1 served
  constructor
  · rintro (old | ⟨a, haq, few⟩)
    · exact .inl (Finset.mem_insert_of_mem old)
    · by_cases hq : q ∈ insert slot taken
      · exact .inl hq
      refine .inr ⟨a, haq, ?_⟩
      rw [mem_insert, not_or] at hq
      rw [demand_cons] at few
      by_cases hslot : a ≤ slot ∧ slot ≤ q
      · rw [card_freeSlots_insert_of_mem free hslot.1 hslot.2] at few
        split at few <;> omega
      -- the request lies outside too: otherwise `q` would be one of the skipped slots
      have outside : ¬ (a ≤ p ∧ p ≤ q) := by
        rintro ⟨_, hpq⟩
        exact hq.2 (least q hpq (by omega))
      rw [freeSlots_insert_of_notMem hslot]
      simpa [outside] using few
  rintro (new | ⟨a, haq, few⟩)
  · rcases mem_insert.1 new with rfl | old
    · -- the served slot itself: `[p, q]` holds one free slot and this request
      refine .inr ⟨p, lower, ?_⟩
      have single : (freeSlots taken p q).card = (freeSlots taken q q).card := by
        rw [freeSlots_extend_left lower least]
      have one : (freeSlots taken q q).card ≤ 1 := by
        refine (card_filter_le _ _).trans ?_
        simp
      rw [demand_cons, if_pos ⟨le_refl p, lower⟩]
      omega
    · exact .inl old
  refine .inr ?_
  by_cases hslot : a ≤ slot ∧ slot ≤ q
  · rw [Crowded]
    by_cases hap : a ≤ p
    · refine ⟨a, haq, ?_⟩
      rw [card_freeSlots_insert_of_mem free hslot.1 hslot.2, demand_cons,
        if_pos ⟨hap, by omega⟩]
      omega
    -- the request starts left of the interval: widen the interval to it
    refine ⟨p, by omega, ?_⟩
    have widen := freeSlots_extend_left (q := q) (show p ≤ a by omega)
      (fun x hx hlt => least x hx (by omega))
    have more := demand_mono_left rest q (show p ≤ a by omega)
    rw [widen, card_freeSlots_insert_of_mem free hslot.1 hslot.2, demand_cons,
      if_pos ⟨le_refl p, by omega⟩]
    omega
  refine ⟨a, haq, ?_⟩
  rw [freeSlots_insert_of_notMem hslot] at few
  rw [demand_cons]
  omega

theorem overfull_cons_iff (served : firstFree top taken p = some slot) :
    Overfull top taken (p :: rest) ↔ Overfull top (insert slot taken) rest := by
  obtain ⟨lower, upper, free, least⟩ := firstFree_eq_some_iff.1 served
  constructor
  · rintro ⟨a, hatop, many⟩
    refine ⟨a, hatop, ?_⟩
    rw [demand_cons] at many
    by_cases hslot : a ≤ slot
    · rw [card_freeSlots_insert_of_mem free hslot upper] at many
      split at many <;> omega
    rw [freeSlots_insert_of_notMem (by omega)]
    rw [if_neg (by omega)] at many
    simpa using many
  rintro ⟨a, hatop, many⟩
  by_cases hslot : a ≤ slot
  · by_cases hap : a ≤ p
    · refine ⟨a, hatop, ?_⟩
      rw [card_freeSlots_insert_of_mem free hslot upper, demand_cons, if_pos ⟨hap, by omega⟩]
      omega
    · refine ⟨p, by omega, ?_⟩
      have widen := freeSlots_extend_left (q := top) (show p ≤ a by omega)
        (fun x hx hlt => least x hx (by omega))
      have more := demand_mono_left rest top (show p ≤ a by omega)
      rw [widen, card_freeSlots_insert_of_mem free hslot upper, demand_cons,
        if_pos ⟨le_refl p, by omega⟩]
      omega
  refine ⟨a, hatop, ?_⟩
  rw [freeSlots_insert_of_notMem (by omega)] at many
  rw [demand_cons]
  omega

end Step

theorem allocate_taken_iff (done : allocate top requests taken = some (slots, final)) (q : ℕ) :
    q ∈ final ↔ q ∈ taken ∨ Crowded taken requests q := by
  induction requests generalizing taken slots with
  | nil =>
    simp only [allocate, Option.some.injEq, Prod.mk.injEq] at done
    obtain ⟨_, rfl⟩ := done
    constructor
    · exact .inl
    rintro (old | ⟨a, haq, few⟩)
    · exact old
    by_contra free
    have member : q ∈ freeSlots taken a q := by simp [freeSlots, haq, free]
    have := card_pos.2 ⟨q, member⟩
    simp only [demand, countP_nil] at few
    omega
  | cons p rest ih =>
    obtain ⟨slot, slots', served, later, -⟩ := allocate_cons_eq_some.1 done
    rw [ih later, crowded_cons_iff served]

theorem allocate_eq_none_iff (taken : Finset ℕ) (bounded : ∀ p ∈ requests, p ≤ top) :
    allocate top requests taken = none ↔ Overfull top taken requests := by
  induction requests generalizing taken with
  | nil => simp [allocate, Overfull, demand]
  | cons p rest ih =>
    have hp : p ≤ top := bounded p (by simp)
    have hrest : ∀ q ∈ rest, q ≤ top := fun q hq => bounded q (by simp [hq])
    rw [allocate]
    cases served : firstFree top taken p with
    | none =>
      -- no free slot in `[p, top]`, and this request asks for one
      have full := firstFree_eq_none_iff.1 served
      have none_free : (freeSlots taken p top).card = 0 := by
        rw [card_eq_zero, freeSlots, filter_eq_empty_iff]
        intro x hx
        rw [mem_Icc] at hx
        simpa using full x hx.1 hx.2
      simp only [true_iff]
      refine ⟨p, hp, ?_⟩
      rw [none_free, demand_cons, if_pos ⟨le_refl p, hp⟩]
      omega
    | some slot =>
      rw [overfull_cons_iff served, ← ih _ hrest]
      dsimp only
      cases allocate top rest (insert slot taken) <;> simp

/-! ### Batches in pieces -/

theorem allocate_append (early late : List ℕ) (taken : Finset ℕ) :
    allocate top (early ++ late) taken =
      match allocate top early taken with
      | none => none
      | some (slots, between) =>
        match allocate top late between with
        | none => none
        | some (slots', final) => some (slots ++ slots', final) := by
  induction early generalizing taken with
  | nil =>
    simp only [nil_append, allocate]
    cases allocate top late taken <;> rfl
  | cons p rest ih =>
    simp only [cons_append, allocate]
    cases firstFree top taken p with
    | none => rfl
    | some slot =>
      dsimp only
      rw [ih]
      cases allocate top rest (insert slot taken) with
      | none => rfl
      | some served =>
        obtain ⟨slots, between⟩ := served
        dsimp only
        cases allocate top late between <;> rfl

theorem length_of_allocate (done : allocate top requests taken = some (slots, final)) :
    slots.length = requests.length := by
  induction requests generalizing taken slots with
  | nil =>
    simp only [allocate, Option.some.injEq, Prod.mk.injEq] at done
    simp [← done.1]
  | cons p rest ih =>
    obtain ⟨slot, slots', _, later, rfl⟩ := allocate_cons_eq_some.1 done
    rw [length_cons, ih later, length_cons]

theorem le_top_of_allocate (done : allocate top requests taken = some (slots, final)) :
    ∀ slot ∈ slots, slot ≤ top := by
  induction requests generalizing taken slots with
  | nil =>
    simp only [allocate, Option.some.injEq, Prod.mk.injEq] at done
    simp [← done.1]
  | cons p rest ih =>
    obtain ⟨slot, slots', served, later, rfl⟩ := allocate_cons_eq_some.1 done
    intro x hx
    rcases List.mem_cons.1 hx with rfl | hx
    · exact (firstFree_eq_some_iff.1 served).2.1
    · exact ih later x hx

theorem allocate_split {early late : List ℕ}
    (done : allocate top (early ++ p :: late) taken = some (slots, final)) :
    ∃ slots' between, allocate top early taken = some (slots', between) ∧
      firstFree top between p = slots[early.length]? := by
  rw [allocate_append] at done
  cases first : allocate top early taken with
  | none => simp [first] at done
  | some served =>
    obtain ⟨slots', between⟩ := served
    refine ⟨slots', between, rfl, ?_⟩
    rw [first] at done
    dsimp only at done
    cases second : allocate top (p :: late) between with
    | none => simp [second] at done
    | some result =>
      obtain ⟨slots'', final'⟩ := result
      obtain ⟨slot, rest, now, _, rfl⟩ := allocate_cons_eq_some.1 second
      simp only [second, Option.some.injEq, Prod.mk.injEq] at done
      rw [now, ← done.1, ← length_of_allocate first]
      simp

theorem allocate_congr {requests' : List ℕ} (length : requests.length = requests'.length)
    (agree : ∀ early p late early' p' late', requests = early ++ p :: late →
      requests' = early' ++ p' :: late' → early.length = early'.length →
      ∀ slots between, allocate top early taken = some (slots, between) →
        firstFree top between p = firstFree top between p') :
    allocate top requests taken = allocate top requests' taken := by
  induction requests generalizing requests' taken with
  | nil =>
    cases requests' with
    | nil => rfl
    | cons _ _ => simp at length
  | cons p rest ih =>
    cases requests' with
    | nil => simp at length
    | cons p' rest' =>
      have head := agree [] p rest [] p' rest' rfl rfl rfl [] taken rfl
      rw [allocate, allocate, ← head]
      cases served : firstFree top taken p with
      | none => rfl
      | some slot =>
        have tail : allocate top rest (insert slot taken) =
            allocate top rest' (insert slot taken) := by
          apply ih (by simpa using length)
          intro early q late early' q' late' split split' sameLength slots between done
          apply agree (p :: early) q late (p' :: early') q' late' (by simp [split])
            (by simp [split']) (by simp [sameLength]) (slot :: slots) between
          simp [allocate, served, done]
        simp only [tail]

end Wts.FirstFit
