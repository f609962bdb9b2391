/-
Module: Wts.Library.Lines
Purpose: The lines of a text as `str::lines` cuts it.
-/
import Mathlib

namespace Wts.Text

open List

/-- `str::lines`. The last line may end without a line feed, and then keeps a carriage return. -/
def linesFrom : List (List Char) → List String
  | [] => []
  | [last] => if last = [] then [] else [String.ofList last]
  | line :: rest =>
    String.ofList (if line.getLast? = some '\x0d' then line.dropLast else line) :: linesFrom rest

def lines (text : String) : List String :=
  linesFrom (text.toList.splitOn '\n')

/-- A line as `lines` returns it, without the carriage return before its line feed. -/
def withoutReturn (line : List Char) : List Char :=
  if line.getLast? = some '\x0d' then line.dropLast else line

theorem withoutReturn_prefix (line : List Char) : withoutReturn line <+: line := by
  rw [withoutReturn]
  split
  · exact dropLast_prefix line
  · exact prefix_rfl

theorem withoutReturn_append {start rest : List Char} (goesOn : rest ≠ []) :
    withoutReturn (start ++ rest) = start ++ withoutReturn rest := by
  rw [withoutReturn, withoutReturn, getLast?_append_of_ne_nil start goesOn]
  split
  · exact dropLast_append_of_ne_nil goesOn
  · rfl

theorem lines_terminated {texts : List (List Char)} (noFeed : ∀ text ∈ texts, '\n' ∉ text) :
    lines (String.ofList (texts.flatMap fun text => text ++ ['\n'])) =
      texts.map fun text => String.ofList (withoutReturn text) := by
  rw [lines, String.toList_ofList]
  induction texts with
  | nil => rfl
  | cons first rest ih =>
    have plain : ∀ c ∈ first, (c == '\n') = false := by
      intro c member
      exact beq_false_of_ne fun same => noFeed first mem_cons_self (same ▸ member)
    have ends : ∃ next others, (rest.flatMap fun text => text ++ ['\n']).splitOn '\n' =
        next :: others :=
      exists_cons_of_ne_nil (splitOnP_ne_nil _ _)
    obtain ⟨next, others, isNext⟩ := ends
    have split : ((first :: rest).flatMap fun text => text ++ ['\n']).splitOn '\n' =
        first :: (rest.flatMap fun text => text ++ ['\n']).splitOn '\n' := by
      rw [flatMap_cons, append_assoc, singleton_append, List.splitOn]
      exact splitOnP_append_cons_of_forall_mem plain '\n' (beq_self_eq_true _) _
    have more := ih fun text member => noFeed text (mem_cons_of_mem _ member)
    rw [split, map_cons, ← more, isNext]
    rfl

end Wts.Text
