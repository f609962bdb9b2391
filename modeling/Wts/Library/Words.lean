/-
Module: Wts.Library.Words
Purpose: Lists as words between separators: splitting at white space, joining, stripping both ends,
  splitting at the last separator, and the words that are left when a joined text is cut off.
-/
import Mathlib

namespace Wts.Words

open List

variable {α : Type}

/-- `str::split_whitespace`: the nonempty pieces between spaces. -/
def words (space : α → Bool) (items : List α) : List (List α) :=
  (items.splitOnP space).filter fun word => !word.isEmpty

def trimMatches (strip : α → Bool) (items : List α) : List α :=
  (items.dropWhile strip).rdropWhile strip

/-- `str::rsplit_once` at one character: what is before and after its last occurrence. -/
def rsplitOnce [DecidableEq α] (separator : α) : List α → Option (List α × List α)
  | [] => none
  | item :: rest =>
    match rsplitOnce separator rest with
    | some (before, after) => some (item :: before, after)
    | none => if item = separator then some ([], rest) else none

def join (separator : List α) (pieces : List (List α)) : List α :=
  separator.intercalate pieces

/-- `Iterator::max_by_key`: the last one of those with the greatest key. -/
def maxByKey (key : α → ℕ) : List α → Option α
  | [] => none
  | first :: rest =>
    some (rest.foldl (fun best item => if key best ≤ key item then item else best) first)

theorem foldl_max_mem (key : α → ℕ) (first : α) (rest : List α) :
    rest.foldl (fun best item => if key best ≤ key item then item else best) first ∈
      first :: rest := by
  induction rest generalizing first with
  | nil => exact mem_cons_self
  | cons item rest ih =>
    rw [foldl_cons]
    rcases mem_cons.1 (ih (if key first ≤ key item then item else first)) with here | later
    · rw [here]
      split
      · exact mem_cons_of_mem _ mem_cons_self
      · exact mem_cons_self
    · exact mem_cons_of_mem _ (mem_cons_of_mem _ later)

theorem mem_of_maxByKey {key : α → ℕ} {items : List α} {best : α}
    (found : maxByKey key items = some best) : best ∈ items := by
  cases items with
  | nil => cases found
  | cons first rest =>
    rw [← Option.some.inj found]
    exact foldl_max_mem key first rest

theorem maxByKey_eq_none_iff {key : α → ℕ} {items : List α} :
    maxByKey key items = none ↔ items = [] := by
  cases items <;> simp [maxByKey]

theorem rsplitOnce_eq_some [DecidableEq α] {separator : α} {items before after : List α}
    (found : rsplitOnce separator items = some (before, after)) :
    items = before ++ separator :: after := by
  induction items generalizing before with
  | nil => cases found
  | cons item rest ih =>
    rw [rsplitOnce] at found
    split at found
    · rename_i first second inner
      cases found
      rw [ih inner, cons_append]
    split at found
    · rename_i same
      cases found
      rw [same, nil_append]
    · cases found

theorem join_cons_cons (separator first second : List α) (pieces : List (List α)) :
    join separator (first :: second :: pieces) =
      first ++ separator ++ join separator (second :: pieces) := by
  simp [join, List.intercalate]

variable {pieces : List (List α)}

theorem mem_join {item : α} {separator : List α} (member : item ∈ join separator pieces) :
    item ∈ separator ∨ ∃ piece ∈ pieces, item ∈ piece := by
  induction pieces with
  | nil => simp [join] at member
  | cons first rest ih =>
    cases rest with
    | nil => exact .inr ⟨first, mem_cons_self, by simpa [join] using member⟩
    | cons second rest =>
      rw [join_cons_cons, mem_append, mem_append] at member
      rcases member with (inFirst | inSeparator) | later
      · exact .inr ⟨first, mem_cons_self, inFirst⟩
      · exact .inl inSeparator
      rcases ih later with inSeparator | ⟨piece, isPiece, inside⟩
      · exact .inl inSeparator
      · exact .inr ⟨piece, mem_cons_of_mem _ isPiece, inside⟩

theorem head_join {separator first : List α} (nonempty : first ≠ []) :
    (join separator (first :: pieces)).head? = first.head? := by
  obtain ⟨item, first, rfl⟩ := exists_cons_of_ne_nil nonempty
  cases pieces with
  | nil => simp [join]
  | cons second pieces => simp [join_cons_cons]

/-! ### Words -/

variable {space : α → Bool} {word : List α} {items rest : List α} {separator : α}

theorem mem_splitOnP (member : word ∈ items.splitOnP space) :
    ∀ item ∈ word, item ∈ items ∧ space item = false := by
  induction items generalizing word with
  | nil =>
    intro item isItem
    rw [splitOnP_nil, mem_singleton] at member
    rw [member] at isItem
    cases isItem
  | cons first items ih =>
    intro item isItem
    obtain ⟨head, tail, pieces⟩ :=
      exists_cons_of_ne_nil (splitOnP_ne_nil space items)
    rw [splitOnP_cons_eq_if_modifyHead, pieces] at member
    split at member
    · rcases mem_cons.1 member with rfl | later
      · cases isItem
      · obtain ⟨present, notSpace⟩ := ih (pieces ▸ later) item isItem
        exact ⟨mem_cons_of_mem _ present, notSpace⟩
    rename_i notSpace
    rcases mem_cons.1 member with rfl | later
    · rcases mem_cons.1 isItem with rfl | inHead
      · exact ⟨mem_cons_self, by simpa using notSpace⟩
      · obtain ⟨present, noSpace⟩ := ih (pieces ▸ mem_cons_self) item inHead
        exact ⟨mem_cons_of_mem _ present, noSpace⟩
    obtain ⟨present, noSpace⟩ :=
      ih (pieces ▸ mem_cons_of_mem _ later) item isItem
    exact ⟨mem_cons_of_mem _ present, noSpace⟩

theorem mem_words (member : word ∈ words space items) :
    word ≠ [] ∧ ∀ item ∈ word, item ∈ items ∧ space item = false := by
  rw [words, mem_filter, Bool.not_eq_true', isEmpty_eq_false_iff] at member
  exact ⟨member.2, mem_splitOnP member.1⟩

theorem words_append_cons (isSpace : space separator = true) :
    words space (items ++ separator :: rest) = words space items ++ words space rest := by
  rw [words, splitOnP_append_cons _ _ isSpace, filter_append]
  rfl

theorem words_of_noSpace (noSpace : ∀ item ∈ items, space item = false) (nonempty : items ≠ []) :
    words space items = [items] := by
  rw [words, splitOnP_eq_singleton noSpace]
  simp [nonempty]

@[simp] theorem words_nil : words space ([] : List α) = [] := by
  simp [words]

/-- A list of words as `words` returns them. -/
def Plain (space : α → Bool) (pieces : List (List α)) : Prop :=
  ∀ word ∈ pieces, word ≠ [] ∧ ∀ item ∈ word, space item = false

theorem Plain.tail (plain : Plain space (word :: pieces)) : Plain space pieces :=
  fun other member => plain other (mem_cons_of_mem _ member)

/-- The words of a text that is cut off after `room` items: the last one may be cut. -/
def cutWords : ℕ → List (List α) → List (List α)
  | _, [] => []
  | 0, _ :: _ => []
  | room + 1, word :: rest => word.take (room + 1) :: cutWords (room - word.length) rest

theorem words_take_join (isSpace : space separator = true) (plain : Plain space pieces) (room : ℕ) :
    words space ((join [separator] pieces).take room) = cutWords room pieces := by
  induction pieces generalizing room with
  | nil => simp [join, cutWords]
  | cons word rest ih =>
    obtain ⟨nonempty, noSpace⟩ := plain word mem_cons_self
    cases room with
    | zero => simp [cutWords]
    | succ room =>
      have cut : words space (word.take (room + 1)) = [word.take (room + 1)] := by
        apply words_of_noSpace
        · exact fun item member => noSpace item (mem_of_mem_take member)
        intro empty
        rcases take_eq_nil_iff.1 empty with zero | none
        · omega
        · exact nonempty none
      rw [cutWords]
      cases rest with
      | nil => simpa [join, cutWords] using cut
      | cons second rest =>
        rw [join_cons_cons, append_assoc, singleton_append, take_append]
        rcases Nat.lt_or_ge room word.length with short | long
        · rw [Nat.sub_eq_zero_of_le short, take_zero, append_nil, cut,
            Nat.sub_eq_zero_of_le (Nat.le_of_lt short), cutWords]
        rw [Nat.succ_sub long, take_succ_cons, words_append_cons isSpace, cut,
          ih plain.tail]
        rfl

theorem words_take_append_cons (isSpace : space separator = true) {n : ℕ}
    (fits : items.length ≤ n) : words space ((items ++ separator :: rest).take n) =
      words space items ++ words space (rest.take (n - items.length - 1)) := by
  rw [take_append, take_of_length_le fits]
  cases n - items.length with
  | zero => simp
  | succ room => rw [take_succ_cons, words_append_cons isSpace, Nat.add_sub_cancel]

end Wts.Words
