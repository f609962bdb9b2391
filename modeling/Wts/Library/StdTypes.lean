/-
Module: Wts.Library.StdTypes
Purpose: Types of the standard library that several components share: universally unique identifiers,
  durations, and file paths as they are compared, an optional root and a list of components.
-/
import Mathlib

namespace Wts

abbrev Uuid := Fin (2 ^ 128)

instance uuidNeZero : NeZero (2 ^ 128) :=
  inferInstance

instance uuidTransOrd : Std.TransOrd Uuid :=
  inferInstance

/-- A duration in nanoseconds. -/
abbrev Duration := ℕ

def seconds (n : ℕ) : Duration := n * 1000000000

def millis (n : ℕ) : Duration := n * 1000000

/-- A Unix path, as `std::path::PathBuf` splits it into components. -/
structure PathBuf where
  absolute : Bool
  components : List String
deriving DecidableEq, Inhabited

namespace PathBuf

/-- `Path::starts_with`: whole components only. -/
def startsWith (path start : PathBuf) : Bool :=
  path.absolute = start.absolute && start.components.isPrefixOf path.components

/-- `Path::join` with one plain component. -/
def join (path : PathBuf) (component : String) : PathBuf :=
  { path with components := path.components ++ [component] }

def display (path : PathBuf) : String :=
  (if path.absolute then "/" else "") ++ String.intercalate "/" path.components

/-- The components as the order of paths sees them: the root comes before every name. -/
def orderedComponents (path : PathBuf) : List (Option String) :=
  (if path.absolute then [none] else []) ++ path.components.map some

theorem orderedComponents_injective : Function.Injective orderedComponents := by
  rintro ⟨absolute, components⟩ ⟨absolute', components'⟩ same
  have names : Function.Injective (List.map (some : String → Option String)) :=
    List.map_injective_iff.2 (Option.some_injective _)
  cases absolute <;> cases absolute' <;> simp only [orderedComponents] at same
  · rw [names same]
  · cases components <;> simp at same
  · cases components' <;> simp at same
  · rw [names (List.append_cancel_left same)]

/-- The order of paths, component by component. -/
instance : Ord PathBuf where
  compare := compareOn orderedComponents

instance : Std.TransOrd PathBuf :=
  inferInstanceAs (Std.TransCmp (compareOn orderedComponents))

instance : Std.LawfulEqOrd PathBuf where
  eq_of_compare := fun equal =>
    orderedComponents_injective (Std.LawfulEqOrd.eq_of_compare equal)

theorem startsWith_iff {path start : PathBuf} : path.startsWith start = true ↔
      path.absolute = start.absolute ∧ start.components <+: path.components := by
  simp [startsWith]

@[simp] theorem startsWith_self (path : PathBuf) : path.startsWith path = true :=
  startsWith_iff.2 ⟨rfl, List.prefix_refl _⟩

end PathBuf

end Wts
