/-
Module: Wts.Library.LineReader
Purpose: Reading a growing log line by line.
-/
import Mathlib

namespace Wts.LineReader

open List

variable {α σ : Type} [DecidableEq α] (stop : α) (limit : ℕ)

/-- `read_until` on a reader that gives at most `n` items. -/
def readUntil : ℕ → List α → List α
  | 0, _ => []
  | _, [] => []
  | n + 1, item :: rest => if item = stop then [item] else item :: readUntil n rest

/-- `skip_until`: the number of items up to the next stop, or to the end. -/
def skipUntil : List α → ℕ
  | [] => 0
  | item :: rest => if item = stop then 1 else skipUntil rest + 1

/-- What is next in the unread items. -/
inductive LineRead (α : Type) where
  | done
  | skip (count : ℕ)
  | line (items : List α)

def nextLine (unread : List α) : LineRead α :=
  let line := readUntil stop (limit + 1) unread
  if line = [] then .done
  else if line.getLast? = some stop then .line line
  else if line.length ≤ limit then .done
  else
    let skipped := skipUntil stop (unread.drop line.length)
    if skipped = 0 then .done else .skip (line.length + skipped)

/-! ### What is next -/

variable {stop limit}

theorem readUntil_of_not_mem {items : List α} (unfinished : stop ∉ items) (n : ℕ) :
    readUntil stop n items = items.take n := by
  induction items generalizing n with
  | nil => cases n <;> rfl
  | cons item rest ih =>
    have different : item ≠ stop := fun same => unfinished (same ▸ mem_cons_self)
    cases n with
    | zero => rfl
    | succ n =>
      rw [readUntil, if_neg different,
        ih fun member => unfinished (mem_cons_of_mem _ member), take_succ_cons]

theorem readUntil_append {body rest : List α} (inside : stop ∉ body) (n : ℕ) :
    readUntil stop n (body ++ stop :: rest) = (body ++ [stop]).take n := by
  induction body generalizing n with
  | nil => cases n <;> simp [readUntil]
  | cons item body ih =>
    have different : item ≠ stop := fun same => inside (same ▸ mem_cons_self)
    cases n with
    | zero => rfl
    | succ n =>
      rw [cons_append, readUntil, if_neg different,
        ih fun member => inside (mem_cons_of_mem _ member), cons_append,
        take_succ_cons]

theorem skipUntil_of_not_mem {items : List α} (unfinished : stop ∉ items) :
    skipUntil stop items = items.length := by
  induction items with
  | nil => rfl
  | cons item rest ih =>
    have different : item ≠ stop := fun same => unfinished (same ▸ mem_cons_self)
    rw [skipUntil, if_neg different,
      ih fun member => unfinished (mem_cons_of_mem _ member), length_cons]

theorem skipUntil_append {body rest : List α} (inside : stop ∉ body) :
    skipUntil stop (body ++ stop :: rest) = body.length + 1 := by
  induction body with
  | nil => simp [skipUntil]
  | cons item body ih =>
    have different : item ≠ stop := fun same => inside (same ▸ mem_cons_self)
    rw [cons_append, skipUntil, if_neg different,
      ih fun member => inside (mem_cons_of_mem _ member), length_cons]

theorem nextLine_of_not_mem {unread : List α} (unfinished : stop ∉ unread) :
    nextLine stop limit unread =
      if unread.length ≤ limit + 1 then .done else .skip unread.length := by
  have line := readUntil_of_not_mem unfinished (limit + 1)
  have noStop : (unread.take (limit + 1)).getLast? ≠ some stop := fun last =>
    unfinished (mem_of_mem_take (mem_of_getLast? last))
  rw [nextLine, line, if_neg noStop]
  by_cases short : unread.length ≤ limit + 1
  · rw [if_pos short, take_of_length_le short]
    by_cases none : unread = []
    · rw [if_pos none]
    rw [if_neg none]
    by_cases partial_ : unread.length ≤ limit
    · rw [if_pos partial_]
    rw [if_neg partial_, drop_length]
    rfl
  have some : unread.take (limit + 1) ≠ [] := by
    rw [Ne, take_eq_nil_iff]
    rintro (zero | none)
    · omega
    rw [none] at short
    exact short (Nat.zero_le _)
  have length : (unread.take (limit + 1)).length = limit + 1 := by
    rw [length_take]
    omega
  have rest : skipUntil stop (unread.drop (limit + 1)) = unread.length - (limit + 1) := by
    rw [skipUntil_of_not_mem fun member => unfinished (mem_of_mem_drop member),
      length_drop]
  rw [if_neg short, if_neg some, length, if_neg (by omega), rest, if_neg (by omega)]
  congr 1
  omega

theorem nextLine_append {body rest : List α} (inside : stop ∉ body) :
    nextLine stop limit (body ++ stop :: rest) =
      if body.length ≤ limit then .line (body ++ [stop]) else .skip (body.length + 1) := by
  have line : readUntil stop (limit + 1) (body ++ stop :: rest) = (body ++ [stop]).take (limit + 1) :=
    readUntil_append inside (limit + 1)
  by_cases short : body.length ≤ limit
  · have whole : (body ++ [stop]).take (limit + 1) = body ++ [stop] :=
      take_of_length_le (by rw [length_append, length_singleton]; omega)
    rw [nextLine, line, whole, if_neg (append_ne_nil_of_right_ne_nil _ (cons_ne_nil _ _)),
      if_pos getLast?_concat, if_pos short]
  have long : limit + 1 ≤ body.length := by omega
  have cut : (body ++ [stop]).take (limit + 1) = body.take (limit + 1) :=
    take_append_of_le_length long
  have noStop : (body.take (limit + 1)).getLast? ≠ some stop := fun last =>
    inside (mem_of_mem_take (mem_of_getLast? last))
  have length : (body.take (limit + 1)).length = limit + 1 := by
    rw [length_take]
    omega
  have some : body.take (limit + 1) ≠ [] := by
    intro none
    rw [none, length_nil] at length
    omega
  have rest : skipUntil stop ((body ++ stop :: rest).drop (limit + 1)) =
      body.length - (limit + 1) + 1 := by
    rw [drop_append_of_le_length long,
      skipUntil_append fun member => inside (mem_of_mem_drop member), length_drop]
  rw [nextLine, line, cut, if_neg some, if_neg noStop, length, if_neg (by omega), rest,
    if_neg (by omega), if_neg short]
  congr 1
  omega

theorem line_cases (stop : α) (items : List α) :
    stop ∉ items ∨ ∃ body rest, items = body ++ stop :: rest ∧ stop ∉ body := by
  by_cases member : stop ∈ items
  · obtain ⟨body, rest, same, inside⟩ := eq_append_cons_of_mem member
    exact Or.inr ⟨body, rest, same, inside⟩
  · exact Or.inl member

@[elab_as_elim]
theorem line_induction (stop : α) {motive : List α → Prop}
    (unfinished : ∀ items, stop ∉ items → motive items)
    (line : ∀ body rest, stop ∉ body → motive rest → motive (body ++ stop :: rest))
    (items : List α) : motive items := by
  induction length : items.length using Nat.strong_induction_on generalizing items with
  | _ n ih =>
    rcases line_cases stop items with isUnfinished | ⟨body, rest, rfl, inside⟩
    · exact unfinished items isUnfinished
    refine line body rest inside (ih rest.length ?_ rest rfl)
    rw [← length, length_append, length_cons]
    omega

theorem nextLine_skip_pos {unread : List α} {count : ℕ}
    (isNext : nextLine stop limit unread = .skip count) : 0 < count ∧ unread ≠ [] := by
  rcases line_cases stop unread with unfinished | ⟨body, rest, rfl, inside⟩
  · rw [nextLine_of_not_mem unfinished] at isNext
    split at isNext
    · cases isNext
    cases isNext
    rename_i long
    exact ⟨by omega, fun none => long (by rw [none]; exact Nat.zero_le _)⟩
  rw [nextLine_append inside] at isNext
  split at isNext
  · cases isNext
  cases isNext
  exact ⟨Nat.succ_pos _, append_ne_nil_of_right_ne_nil _ (cons_ne_nil _ _)⟩

theorem nextLine_line_pos {unread line : List α}
    (isNext : nextLine stop limit unread = .line line) : 0 < line.length ∧ unread ≠ [] := by
  rcases line_cases stop unread with unfinished | ⟨body, rest, rfl, inside⟩
  · rw [nextLine_of_not_mem unfinished] at isNext
    split at isNext <;> cases isNext
  rw [nextLine_append inside] at isNext
  split at isNext
  · cases isNext
    exact ⟨by simp, append_ne_nil_of_right_ne_nil _ (cons_ne_nil _ _)⟩
  · cases isNext

variable (stop limit) in
/-- Apply the lines that are there, and give the offset for the next read. -/
def readLines (apply : σ → List α → σ) (unread : List α) (offset : ℕ) (state : σ) : ℕ × σ :=
  match _isNext : nextLine stop limit unread with
  | .done => (offset, state)
  | .skip count => readLines apply (unread.drop count) (offset + count) state
  | .line line =>
    readLines apply (unread.drop line.length) (offset + line.length) (apply state line)
termination_by unread.length
decreasing_by
  · obtain ⟨positive, some⟩ := nextLine_skip_pos _isNext
    have := length_pos_of_ne_nil some
    rw [length_drop]
    omega
  · obtain ⟨positive, some⟩ := nextLine_line_pos _isNext
    have := length_pos_of_ne_nil some
    rw [length_drop]
    omega

variable {apply : σ → List α → σ} {offset : ℕ} {state : σ}

theorem readLines_of_done {unread : List α} (isNext : nextLine stop limit unread = .done) :
    readLines stop limit apply unread offset state = (offset, state) := by
  rw [readLines]
  split <;> rename_i other <;> rw [isNext] at other <;> cases other

theorem readLines_of_skip {unread : List α} {count : ℕ}
    (isNext : nextLine stop limit unread = .skip count) :
    readLines stop limit apply unread offset state =
      readLines stop limit apply (unread.drop count) (offset + count) state := by
  rw [readLines]
  split <;> rename_i other <;> rw [isNext] at other <;> cases other
  rfl

theorem readLines_of_line {unread line : List α}
    (isNext : nextLine stop limit unread = .line line) :
    readLines stop limit apply unread offset state =
      readLines stop limit apply (unread.drop line.length) (offset + line.length)
        (apply state line) := by
  rw [readLines]
  split <;> rename_i other <;> rw [isNext] at other <;> cases other
  rfl

theorem readLines_of_not_mem {unread : List α} (unfinished : stop ∉ unread) :
    readLines stop limit apply unread offset state =
      (if unread.length ≤ limit + 1 then offset else offset + unread.length, state) := by
  have isNext : nextLine stop limit unread =
      if unread.length ≤ limit + 1 then .done else .skip unread.length :=
    nextLine_of_not_mem unfinished
  by_cases short : unread.length ≤ limit + 1
  · rw [if_pos short] at isNext ⊢
    exact readLines_of_done isNext
  rw [if_neg short] at isNext ⊢
  have nothing : nextLine stop limit ([] : List α) = .done := rfl
  rw [readLines_of_skip isNext, drop_length, readLines_of_done nothing]

theorem readLines_append {body rest : List α} (inside : stop ∉ body) :
    readLines stop limit apply (body ++ stop :: rest) offset state =
      readLines stop limit apply rest (offset + (body.length + 1))
        (if body.length ≤ limit then apply state (body ++ [stop]) else state) := by
  have isNext : nextLine stop limit (body ++ stop :: rest) =
      if body.length ≤ limit then .line (body ++ [stop]) else .skip (body.length + 1) :=
    nextLine_append inside
  have dropped : (body ++ stop :: rest).drop (body.length + 1) = rest := by
    rw [append_cons]
    exact drop_left' (by rw [length_append, length_singleton])
  by_cases short : body.length ≤ limit
  · rw [if_pos short] at isNext ⊢
    rw [readLines_of_line isNext, length_append, length_singleton, dropped]
  rw [if_neg short] at isNext ⊢
  rw [readLines_of_skip isNext, dropped]

variable (stop limit) in
/-- The complete lines within the limit. -/
def completeLines (items : List α) : List (List α) :=
  ((items.splitOn stop).dropLast.map (· ++ [stop])).filter fun line => line.length ≤ limit + 1

theorem completeLines_of_not_mem {items : List α} (unfinished : stop ∉ items) :
    completeLines stop limit items = [] := by
  rw [completeLines, splitOn_eq_singleton unfinished]
  rfl

theorem completeLines_append {body rest : List α} (inside : stop ∉ body) :
    completeLines stop limit (body ++ stop :: rest) =
      (if body.length ≤ limit then [body ++ [stop]] else []) ++ completeLines stop limit rest := by
  have split : (body ++ stop :: rest).splitOn stop = body :: rest.splitOn stop := by
    have cut : (body ++ stop :: rest).splitOn stop = body.splitOn stop ++ rest.splitOn stop :=
      splitOnP_append_cons body rest (beq_self_eq_true stop)
    rw [cut, splitOn_eq_singleton inside]
    rfl
  have nonempty : rest.splitOn stop ≠ [] := splitOnP_ne_nil _ _
  have length : (body ++ [stop]).length ≤ limit + 1 ↔ body.length ≤ limit := by
    rw [length_append, length_singleton]
    omega
  rw [completeLines, split, dropLast_cons_of_ne_nil nonempty, map_cons, filter_cons]
  by_cases short : body.length ≤ limit
  · rw [if_pos short, if_pos (decide_eq_true (length.2 short))]
    rfl
  rw [if_neg short, if_neg (by rw [decide_eq_true_eq, length]; exact short)]
  rfl

theorem readLines_state (unread : List α) (offset : ℕ) (state : σ) :
    (readLines stop limit apply unread offset state).2 =
      (completeLines stop limit unread).foldl apply state := by
  induction unread using line_induction stop generalizing offset state with
  | unfinished items unfinished =>
    rw [readLines_of_not_mem unfinished, completeLines_of_not_mem unfinished]
    rfl
  | line body rest inside ih =>
    rw [readLines_append inside, ih, completeLines_append inside, foldl_append]
    split <;> rfl

variable (stop) in
/-- The items end where a line ends. -/
def EndsLine (items : List α) : Prop :=
  items = [] ∨ items.getLast? = some stop

omit [DecidableEq α] in
theorem EndsLine.rest {body rest : List α} (ends : EndsLine stop (body ++ stop :: rest)) :
    EndsLine stop rest := by
  rcases ends with none | last
  · exact absurd none (append_ne_nil_of_right_ne_nil _ (cons_ne_nil _ _))
  by_cases none : rest = []
  · exact Or.inl none
  refine Or.inr ?_
  rwa [getLast?_append_of_ne_nil _ (cons_ne_nil _ _),
    getLast?_cons_of_ne_nil none] at last

omit [DecidableEq α] in
theorem EndsLine.append {items rest : List α} (ends : EndsLine stop items)
    (restEnds : EndsLine stop rest) : EndsLine stop (items ++ rest) := by
  rcases restEnds with rfl | last
  · rwa [append_nil]
  by_cases none : rest = []
  · rw [none] at last
    cases last
  · exact Or.inr (by rwa [getLast?_append_of_ne_nil _ none])

omit [DecidableEq α] in
theorem endsLine_line (body : List α) : EndsLine stop (body ++ [stop]) :=
  Or.inr getLast?_concat

theorem completeLines_endsLine {items : List α} (ends : EndsLine stop items) (rest : List α) :
    completeLines stop limit (items ++ rest) =
      completeLines stop limit items ++ completeLines stop limit rest := by
  induction items using line_induction stop with
  | unfinished items unfinished =>
    rcases ends with rfl | last
    · rw [completeLines_of_not_mem not_mem_nil]
      rfl
    · exact absurd (mem_of_getLast? last) unfinished
  | line body others inside ih =>
    rw [append_assoc, cons_append, completeLines_append inside,
      completeLines_append inside, ih ends.rest, append_assoc]

theorem readLines_offset (unread : List α) (offset : ℕ) (state : σ) :
    ∃ lines tail, unread = lines ++ tail ∧ EndsLine stop lines ∧ stop ∉ tail ∧
      (readLines stop limit apply unread offset state).1 =
        offset + if tail.length ≤ limit + 1 then lines.length else unread.length := by
  induction unread using line_induction stop generalizing offset state with
  | unfinished items unfinished =>
    refine ⟨[], items, rfl, Or.inl rfl, unfinished, ?_⟩
    rw [readLines_of_not_mem unfinished]
    split <;> rfl
  | line body rest inside ih =>
    rw [readLines_append inside]
    obtain ⟨lines, tail, rfl, ends, unfinished, isOffset⟩ := ih (offset + (body.length + 1))
      (if body.length ≤ limit then apply state (body ++ [stop]) else state)
    refine ⟨(body ++ [stop]) ++ lines, tail, by simp, (endsLine_line body).append ends, unfinished, ?_⟩
    rw [isOffset]
    split <;> simp <;> omega

variable (stop limit) in
/-- The items that are read are complete lines, whose effect is the state, and possibly the first part
of a line that is over the limit. -/
def Resumable (apply : σ → List α → σ) (start : σ) (read : List α) (state : σ) : Prop :=
  ∃ lines skipped, read = lines ++ skipped ∧ EndsLine stop lines ∧ stop ∉ skipped ∧
    (skipped = [] ∨ limit + 1 < skipped.length) ∧
    state = (completeLines stop limit lines).foldl apply start

variable {start : σ} {seen unread : List α}

theorem resumable_nil (apply : σ → List α → σ) (start : σ) :
    Resumable stop limit apply start [] start :=
  ⟨[], [], rfl, Or.inl rfl, not_mem_nil, Or.inl rfl, by
    rw [completeLines_of_not_mem not_mem_nil]
    rfl⟩

theorem completeLines_skipped {skipped rest : List α} (inside : stop ∉ skipped)
    (long : limit + 1 < skipped.length) :
    completeLines stop limit (skipped ++ stop :: rest) = completeLines stop limit rest := by
  rw [completeLines_append inside, if_neg (by omega)]
  rfl

theorem read_of_endsLine (ends : EndsLine stop seen)
    (isState : state = (completeLines stop limit seen).foldl apply start) (unread : List α) :
    (readLines stop limit apply unread seen.length state).2 =
        (completeLines stop limit (seen ++ unread)).foldl apply start ∧
      ∃ consumed left, unread = consumed ++ left ∧
        (readLines stop limit apply unread seen.length state).1 = (seen ++ consumed).length ∧
        Resumable stop limit apply start (seen ++ consumed)
          (readLines stop limit apply unread seen.length state).2 := by
  have isRead : (readLines stop limit apply unread seen.length state).2 =
      (completeLines stop limit (seen ++ unread)).foldl apply start := by
    rw [readLines_state, completeLines_endsLine ends, foldl_append, isState]
  refine ⟨isRead, ?_⟩
  rw [isRead]
  obtain ⟨lines, tail, rfl, linesEnd, unfinished, isOffset⟩ :=
    @readLines_offset _ _ _ stop limit apply unread seen.length state
  have effect : completeLines stop limit (seen ++ (lines ++ tail)) =
      completeLines stop limit (seen ++ lines) := by
    rw [← append_assoc, completeLines_endsLine (ends.append linesEnd),
      completeLines_of_not_mem unfinished, append_nil]
  rw [isOffset, effect]
  by_cases short : tail.length ≤ limit + 1
  · refine ⟨lines, tail, rfl, ?_, seen ++ lines, [], (append_nil _).symm,
      ends.append linesEnd, not_mem_nil, Or.inl rfl, rfl⟩
    rw [if_pos short, length_append]
  refine ⟨lines ++ tail, [], (append_nil _).symm, ?_, seen ++ lines, tail,
    (append_assoc ..).symm, ends.append linesEnd, unfinished, Or.inr (by omega), rfl⟩
  rw [if_neg short]
  exact length_append.symm

theorem Resumable.read (resumable : Resumable stop limit apply start seen state)
    (harmless : EndsLine stop seen ∨ ∀ body rest, unread = body ++ stop :: rest → stop ∉ body →
      body.length ≤ limit → apply state (body ++ [stop]) = state) :
    (readLines stop limit apply unread seen.length state).2 =
        (completeLines stop limit (seen ++ unread)).foldl apply start ∧
      ∃ consumed left, unread = consumed ++ left ∧
        (readLines stop limit apply unread seen.length state).1 = (seen ++ consumed).length ∧
        Resumable stop limit apply start (seen ++ consumed)
          (readLines stop limit apply unread seen.length state).2 := by
  obtain ⟨lines, skipped, rfl, ends, inside, rfl | long, isState⟩ := resumable
  · rw [append_nil]
    exact read_of_endsLine ends isState unread
  have notEnd : ¬ EndsLine stop (lines ++ skipped) := by
    have nonempty : skipped ≠ [] := fun none => by
      rw [none] at long
      exact absurd long (Nat.not_lt_zero _)
    rintro (none | last)
    · exact nonempty (append_eq_nil_iff.1 none).2
    rw [getLast?_append_of_ne_nil _ nonempty] at last
    exact inside (mem_of_getLast? last)
  have noEffect := harmless.resolve_left notEnd
  rcases line_cases stop unread with unfinished | ⟨body, rest, rfl, bodyInside⟩
  · have still : stop ∉ skipped ++ unread := by
      rw [mem_append]
      exact not_or.2 ⟨inside, unfinished⟩
    have nothing : completeLines stop limit (lines ++ skipped ++ unread) =
        completeLines stop limit lines := by
      rw [append_assoc, completeLines_endsLine ends, completeLines_of_not_mem still,
        append_nil]
    rw [readLines_of_not_mem unfinished, nothing]
    refine ⟨isState, ?_⟩
    by_cases short : unread.length ≤ limit + 1
    · rw [if_pos short]
      refine ⟨[], unread, rfl, by rw [append_nil], lines, skipped, append_nil _, ends,
        inside, Or.inr long, isState⟩
    rw [if_neg short]
    refine ⟨unread, [], (append_nil _).symm, length_append.symm, lines,
      skipped ++ unread, append_assoc .., ends, still, Or.inr ?_, isState⟩
    rw [length_append]
    omega
  have unchanged : (if body.length ≤ limit then apply state (body ++ [stop]) else state) =
      state := by
    split
    · rename_i short
      exact noEffect body rest rfl bodyInside short
    · rfl
  have skippedInside : stop ∉ skipped ++ body := by
    rw [mem_append]
    exact not_or.2 ⟨inside, bodyInside⟩
  have skippedLong : limit + 1 < (skipped ++ body).length := by
    rw [length_append]
    omega
  have lineEnds : EndsLine stop (lines ++ skipped ++ (body ++ [stop])) := by
    rw [append_assoc, ← append_assoc skipped]
    exact ends.append (endsLine_line _)
  have lineState : state = (completeLines stop limit
      (lines ++ skipped ++ (body ++ [stop]))).foldl apply start := by
    rw [append_assoc, ← append_assoc skipped, completeLines_endsLine ends,
      completeLines_skipped skippedInside skippedLong,
      completeLines_of_not_mem not_mem_nil, append_nil]
    exact isState
  have length : (lines ++ skipped).length + (body.length + 1) =
      (lines ++ skipped ++ (body ++ [stop])).length := by
    simp only [length_append, length_singleton]
  have whole : lines ++ skipped ++ (body ++ stop :: rest) =
      lines ++ skipped ++ (body ++ [stop]) ++ rest := by simp
  rw [readLines_append bodyInside, unchanged, length, whole]
  obtain ⟨isRead, consumed, left, rfl, isOffset, next⟩ :=
    read_of_endsLine lineEnds lineState rest
  refine ⟨isRead, body ++ stop :: consumed, left, by simp, ?_, ?_⟩
  · rw [isOffset]
    simp
  have same : lines ++ skipped ++ (body ++ stop :: consumed) =
      lines ++ skipped ++ (body ++ [stop]) ++ consumed := by simp
  rw [same]
  exact next

end Wts.LineReader
