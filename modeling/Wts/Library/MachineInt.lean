/-
Module: Wts.Library.MachineInt
Purpose: Signed machine integers as a linear order, and sums of them.
-/
import Wts.Library.Sweep

namespace Wts.MachineInt

open List

instance int64LinearOrder : LinearOrder Int64 where
  le_refl := Int64.le_refl
  le_trans := fun _ _ _ first second => Int64.le_trans first second
  le_antisymm := fun _ _ first second => Int64.le_antisymm first second
  le_total := Int64.le_total
  lt_iff_le_not_ge := by
    intro a b
    rw [Int64.lt_iff_toInt_lt, Int64.le_iff_toInt_le, Int64.le_iff_toInt_le]
    omega
  toDecidableLE := inferInstance
  toDecidableLT := inferInstance
  toDecidableEq := inferInstance

theorem toInt_lt (a : Int64) : a.toInt < 2 ^ 63 :=
  Int64.toInt_lt a

theorem toInt_strictMono {a b : Int64} : a.toInt < b.toInt ↔ a < b :=
  Int64.lt_iff_toInt_lt.symm

theorem toInt_le {a b : Int64} : a.toInt ≤ b.toInt ↔ a ≤ b :=
  Int64.le_iff_toInt_le.symm

theorem toInt_sub_of_le {a b : Int64} (nonneg : 0 ≤ a.toInt) (le : a.toInt ≤ b.toInt) :
    (b - a).toInt = b.toInt - a.toInt := by
  have bound := toInt_lt b
  rw [Int64.toInt_sub]
  exact Int.bmod_eq_of_le (by omega) (by omega)

/-- `Iterator::sum`. -/
def total (numbers : List Int64) : Int64 :=
  numbers.foldl (· + ·) 0

theorem toInt_foldl_add {numbers : List Int64} {start : Int64} (nonneg : ∀ n ∈ numbers, 0 ≤ n.toInt)
    (startNonneg : 0 ≤ start.toInt) (fits : start.toInt + (numbers.map Int64.toInt).sum < 2 ^ 63) :
    (numbers.foldl (· + ·) start).toInt = start.toInt + (numbers.map Int64.toInt).sum := by
  induction numbers generalizing start with
  | nil => simp
  | cons first rest ih =>
    rw [map_cons, sum_cons] at fits
    have firstNonneg := nonneg first mem_cons_self
    have restNonneg : ∀ n ∈ rest, 0 ≤ n.toInt :=
      fun n member => nonneg n (mem_cons_of_mem _ member)
    have sumNonneg : 0 ≤ (rest.map Int64.toInt).sum := by
      apply sum_nonneg
      intro n member
      obtain ⟨m, inside, rfl⟩ := mem_map.1 member
      exact restNonneg m inside
    have added : (start + first).toInt = start.toInt + first.toInt := by
      rw [Int64.toInt_add]
      exact Int.bmod_eq_of_le (by omega) (by omega)
    rw [foldl_cons, ih restNonneg (by omega) (by omega), added, map_cons, sum_cons]
    omega

theorem toInt_total {numbers : List Int64} (nonneg : ∀ n ∈ numbers, 0 ≤ n.toInt)
    (fits : (numbers.map Int64.toInt).sum < 2 ^ 63) :
    (total numbers).toInt = (numbers.map Int64.toInt).sum := by
  have fold : (total numbers).toInt = (0 : Int64).toInt + (numbers.map Int64.toInt).sum :=
    toInt_foldl_add nonneg (by simp) (by simpa using fits)
  simpa using fold

theorem counts_int64 : Sweep.Counts fun start stop : Int64 => stop.toInt - start.toInt := by
  intro start stop ordered
  have finite : (Set.Ico start stop).Finite := by
    apply Set.Finite.of_finite_image (f := Int64.toInt)
    · apply (Set.finite_Ico start.toInt stop.toInt).subset
      rintro _ ⟨t, ⟨reached, before⟩, rfl⟩
      exact ⟨toInt_le.2 reached, toInt_strictMono.2 before⟩
    · exact fun a _ b _ same => Int64.toInt_inj.1 same
  refine ⟨finite, ?_⟩
  have image : Int64.toInt '' Set.Ico start stop = Set.Ico start.toInt stop.toInt := by
    ext z
    constructor
    · rintro ⟨t, ⟨reached, before⟩, rfl⟩
      exact ⟨toInt_le.2 reached, toInt_strictMono.2 before⟩
    rintro ⟨reached, before⟩
    have low := Int64.le_toInt start
    have high := Int64.toInt_lt stop
    have back : (Int64.ofInt z).toInt = z := by
      rw [Int64.toInt_ofInt, show (Int64.size : ℕ) = 2 ^ 64 from rfl]
      exact Int.bmod_eq_of_le (by omega) (by omega)
    refine ⟨Int64.ofInt z, ⟨?_, ?_⟩, back⟩
    · rw [← toInt_le, back]
      exact reached
    rw [← toInt_strictMono, back]
    exact before
  rw [← Set.ncard_image_of_injective _ fun a b same => Int64.toInt_inj.1 same, image,
    Set.ncard_eq_toFinset_card', Set.toFinset_Ico, Int.card_Ico]
  have le := toInt_le.2 ordered
  exact Int.toNat_of_nonneg (by omega)

end Wts.MachineInt
