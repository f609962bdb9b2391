/-
Module: Wts.Library.ThreeWay
Purpose: Three-way merges of several versions of one base.
-/
import Mathlib

namespace Wts.ThreeWay

open List

variable {κ ν : Type} [DecidableEq ν] {base current version : κ → ν} {versions : List (κ → ν)}

/-- The changes of a version of `base`, put on top of `current`. -/
def overlay (base current version : κ → ν) : κ → ν := fun key =>
  if version key = base key then current key else version key

/-- Where the version changed the base, `current` did not, or it made the same change. -/
def Fits (base current version : κ → ν) : Prop :=
  ∀ key, version key = base key ∨ current key = base key ∨ current key = version key

/-- Each version fits on top of the ones before it. -/
def FitInTurn (base : κ → ν) : (κ → ν) → List (κ → ν) → Prop
  | _, [] => True
  | current, version :: rest =>
    Fits base current version ∧ FitInTurn base (overlay base current version) rest

/-- Two versions make no different changes. -/
def Agree (base first second : κ → ν) : Prop :=
  ∀ key, first key = base key ∨ second key = base key ∨ first key = second key

theorem overlay_of_unchanged {key : κ} (same : version key = base key) :
    overlay base current version key = current key :=
  if_pos same

theorem overlay_of_changed {key : κ} (changed : version key ≠ base key) :
    overlay base current version key = version key :=
  if_neg changed

theorem fits_overlay_iff {other : κ → ν} (fits : Fits base current version) :
    Fits base (overlay base current version) other ↔
      Fits base current other ∧ Agree base version other := by
  have atKey : ∀ key, (other key = base key ∨ overlay base current version key = base key ∨
      overlay base current version key = other key) ↔
      (other key = base key ∨ current key = base key ∨ current key = other key) ∧
        (version key = base key ∨ other key = base key ∨ version key = other key) := by
    intro key
    have here := fits key
    by_cases same : version key = base key
    · rw [overlay_of_unchanged same]
      simp [same]
    rw [overlay_of_changed same]
    constructor
    · intro either
      rcases either with unchanged | back | equal
      · exact ⟨.inl unchanged, .inr (.inl unchanged)⟩
      · exact absurd back same
      rcases here with back | untouched | made
      · exact absurd back same
      · exact ⟨.inr (.inl untouched), .inr (.inr equal)⟩
      exact ⟨.inr (.inr (made.trans equal)), .inr (.inr equal)⟩
    intro ⟨_, agree⟩
    rcases agree with back | unchanged | equal
    · exact absurd back same
    · exact .inl unchanged
    exact .inr (.inr equal)
  constructor
  · intro fitting
    exact ⟨fun key => ((atKey key).1 (fitting key)).1, fun key => ((atKey key).1 (fitting key)).2⟩
  intro ⟨fitting, agree⟩ key
  exact (atKey key).2 ⟨fitting key, agree key⟩

theorem fitInTurn_iff : FitInTurn base current versions ↔
    (∀ version ∈ versions, Fits base current version) ∧ versions.Pairwise (Agree base) := by
  induction versions generalizing current with
  | nil => simp [FitInTurn]
  | cons version rest ih =>
    rw [FitInTurn, ih, pairwise_cons, forall_mem_cons]
    constructor
    · intro ⟨fits, later, agree⟩
      exact ⟨⟨fits, fun other member => ((fits_overlay_iff fits).1 (later other member)).1⟩,
        fun other member => ((fits_overlay_iff fits).1 (later other member)).2, agree⟩
    intro ⟨⟨fits, later⟩, agree, pairwise⟩
    exact ⟨fits, fun other member => (fits_overlay_iff fits).2 ⟨later other member,
      agree other member⟩, pairwise⟩

omit [DecidableEq ν] in
theorem Agree.symm {first second : κ → ν} (agree : Agree base first second) :
    Agree base second first := by
  intro key
  rcases agree key with left | right | equal
  · exact .inr (.inl left)
  · exact .inl right
  exact .inr (.inr equal.symm)

omit [DecidableEq ν] in
theorem Agree.refl (base version : κ → ν) : Agree base version version :=
  fun _ => .inr (.inr rfl)

instance : Std.Symm (Agree base) := ⟨fun _ _ both => both.symm⟩

theorem fitInTurn_base_iff : FitInTurn base base versions ↔ versions.Pairwise (Agree base) := by
  rw [fitInTurn_iff]
  constructor
  · exact fun both => both.2
  exact fun agree => ⟨fun _ _ _ => .inr (.inl rfl), agree⟩

theorem foldl_overlay_of_unchanged {key : κ} (same : ∀ version ∈ versions, version key = base key) :
    versions.foldl (overlay base) current key = current key := by
  induction versions generalizing current with
  | nil => rfl
  | cons version rest ih =>
    rw [forall_mem_cons] at same
    rw [foldl_cons, ih same.2, overlay_of_unchanged same.1]

theorem foldl_overlay_of_changed {key : κ} (agree : versions.Pairwise (Agree base))
    (member : version ∈ versions) (changed : version key ≠ base key) :
    versions.foldl (overlay base) current key = version key := by
  induction versions generalizing current version with
  | nil => cases member
  | cons first rest ih =>
    rw [pairwise_cons] at agree
    rw [foldl_cons]
    rcases mem_cons.1 member with isFirst | isLater
    · subst isFirst
      by_cases later : ∃ other ∈ rest, other key ≠ base key
      · obtain ⟨other, inRest, otherChanged⟩ := later
        rw [ih agree.2 inRest otherChanged]
        rcases agree.1 other inRest key with back | back | equal
        · exact absurd back changed
        · exact absurd back otherChanged
        exact equal.symm
      push Not at later
      rw [foldl_overlay_of_unchanged later, overlay_of_changed changed]
    exact ih agree.2 isLater changed

end Wts.ThreeWay
