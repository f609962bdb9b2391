/-
Module: Wts.Proofs.ReviewSize
Purpose: The size counter on the patches that git prints, and when its number is exact.
Trusted boundary: none
Main exports: count_exact_iff
-/
import Wts.App.ReviewSize
import Wts.Proofs.PatchLines

namespace Wts.PatchLines

open DiffOutput List
open Text (startsWith endsWith containsText stripPrefix withoutReturn)

def isChange (line : HunkLine) : Bool :=
  line.changes .old || line.changes .new

/-- A changed line that starts like a file header. -/
def hidden : HunkLine → Bool
  | .removed text => ['-', '-', ' '].isPrefixOf text.chars
  | .added text => ['+', '+', ' '].isPrefixOf text.chars
  | _ => false

def sectionLines (file : FileSection) (counts : HunkLine → Bool) : ℕ :=
  (file.hunks.map fun hunk => hunk.lines.countP counts).sum

/-- The changed lines of a file. -/
def changedLines (file : FileSection) : ℕ :=
  sectionLines file isChange

/-- The changed lines that the counter can see. -/
def visibleLines (file : FileSection) : ℕ :=
  sectionLines file fun line => isChange line && !hidden line

/-- The new path of a section; a removed file has only its old one. -/
def sectionPath (file : FileSection) : String :=
  (file.newPath.or file.oldPath).getD ""

/-- The file counts for the size of a review. -/
def counted (file : FileSection) : Bool :=
  !isExcludedFromSizeGate (sectionPath file)

/-- The counter takes the file of the section as one that counts. -/
def countedByTitle (file : FileSection) : Bool :=
  !isExcludedFromSizeGate (titlePath (seen file.title.chars))

/-- The changed lines in the hunks of the files that count. -/
def exactCount (files : List FileSection) : ℕ :=
  ((files.filter counted).map changedLines).sum

/-- The lines of files that count which the counter does not count. -/
def missedLines (files : List FileSection) : ℕ :=
  ((files.filter counted).map fun file =>
    if countedByTitle file then changedLines file - visibleLines file else changedLines file).sum

/-- The lines that the counter counts in files that do not count. -/
def extraLines (files : List FileSection) : ℕ :=
  ((files.filter fun file => !counted file && countedByTitle file).map visibleLines).sum

/-- No line before the hunks starts like a changed one. -/
def PlainHeaders (files : List FileSection) : Prop :=
  ∀ file ∈ files, ∀ line ∈ file.extended, ¬ ['+'] <+: line.chars ∧ ¬ ['-'] <+: line.chars

/-- What is counted by mistake makes up for what is missed, and the number is one of 32 bits. -/
def Balanced (files : List FileSection) : Prop :=
  missedLines files = extraLines files ∧ exactCount files ≤ u32Max ∨
    missedLines files ≤ extraLines files ∧ exactCount files = u32Max

section Counting

variable {state : LineCount}

def LineCount.add (state : LineCount) (more : ℕ) : LineCount :=
  { state with count := min u32Max (state.count + if state.countedFile then more else 0) }

theorem LineCount.add_zero (bounded : state.count ≤ u32Max) : state.add 0 = state := by
  rw [LineCount.add, ite_self, Nat.add_zero, min_eq_right bounded]

theorem LineCount.add_one (bounded : state.count ≤ u32Max) : state.add 1 =
    if state.countedFile then { state with count := min u32Max (state.count + 1) } else state := by
  obtain ⟨count, countedFile⟩ := state
  cases countedFile with
  | true => rfl
  | false => simpa [LineCount.add] using bounded

theorem LineCount.add_add (first second : ℕ) :
    (state.add first).add second = state.add (first + second) := by
  obtain ⟨count, countedFile⟩ := state
  cases countedFile with
  | true =>
    simp only [LineCount.add, if_true, LineCount.mk.injEq, and_true]
    omega
  | false => simp [LineCount.add]

theorem LineCount.add_bounded (more : ℕ) : (state.add more).count ≤ u32Max :=
  min_le_left _ _

def countAll (state : LineCount) (lines : List (List Char)) : LineCount :=
  (lines.map seen).foldl countLine state

theorem countAll_cons (line : List Char) (rest : List (List Char)) :
    countAll state (line :: rest) = countAll (countLine state (seen line)) rest :=
  rfl

theorem countAll_append (first second : List (List Char)) :
    countAll state (first ++ second) = countAll (countAll state first) second := by
  rw [countAll, map_append, foldl_append]
  rfl

theorem startsWith_seen_eq {start : String} (noReturn : start.toList.getLast? ≠ some '\x0d')
    (line : List Char) : startsWith start (seen line) = start.toList.isPrefixOf line := by
  cases isPrefix : start.toList.isPrefixOf line with
  | true =>
    obtain ⟨rest, rfl⟩ := isPrefixOf_iff_prefix.1 isPrefix
    exact startsWith_seen noReturn rest
  | false =>
    refine not_startsWith_seen fun begins => ?_
    rw [List.isPrefixOf_iff_prefix.2 begins] at isPrefix
    cases isPrefix

theorem countLine_title (title : List Char) :
    countLine state (seen ("diff --git ".toList ++ title)) =
      { state with countedFile := !isExcludedFromSizeGate (titlePath (seen title)) } := by
  have text : seen ("diff --git ".toList ++ title) =
      String.ofList ("diff --git ".toList ++ withoutReturn title) := by
    cases title with
    | nil => rfl
    | cons c rest => rw [seen, Text.withoutReturn_append (cons_ne_nil c rest)]
  simp only [countLine, text, stripPrefix_append]
  rfl

theorem countLine_other {line : List Char} (title : ¬ "diff --git ".toList <+: line) :
    countLine state (seen line) =
      if ['+', '+', '+', ' '].isPrefixOf line || ['-', '-', '-', ' '].isPrefixOf line then state
      else if state.countedFile && (['+'].isPrefixOf line || ['-'].isPrefixOf line) then
        { state with count := min u32Max (state.count + 1) }
      else state := by
  have noTitle : stripPrefix "diff --git " (seen line) = none := by
    have starts := not_startsWith_seen title
    rw [startsWith] at starts
    rw [stripPrefix, starts, if_neg Bool.false_ne_true]
  rw [countLine, noTitle]
  simp only
  rw [startsWith_seen_eq (by decide) line, startsWith_seen_eq (by decide) line,
    startsWith_seen_eq (by decide) line, startsWith_seen_eq (by decide) line]
  have texts : "+++ ".toList = ['+', '+', '+', ' '] ∧ "--- ".toList = ['-', '-', '-', ' '] ∧
      "+".toList = ['+'] ∧ "-".toList = ['-'] := by decide
  rw [texts.1, texts.2.1, texts.2.2.1, texts.2.2.2]

theorem not_title {c : Char} (other : 'd' ≠ c) (rest : List Char) :
    ¬ "diff --git ".toList <+: c :: rest := by
  have text : "diff --git ".toList = 'd' :: "iff --git ".toList := by decide
  rw [text]
  exact not_prefix_of_ne other

theorem countLine_extended (line : ExtendedLine)
    (plain : ¬ ['+'] <+: line.chars ∧ ¬ ['-'] <+: line.chars) :
    countLine state (seen line.chars) = state := by
  have none : ∀ start : List Char, ¬ start <+: line.chars → start.isPrefixOf line.chars = false :=
    fun start other => Bool.eq_false_iff.2 fun isPrefix => other (List.isPrefixOf_iff_prefix.1 isPrefix)
  rw [countLine_other (line.plain _ (by decide)), none _ (line.plain ['+', '+', '+', ' '] (by decide)),
    none _ (line.plain ['-', '-', '-', ' '] (by decide)), none _ plain.1, none _ plain.2]
  simp

theorem countLine_hunkHeader (hunk : Hunk) : countLine state (seen hunk.header) = state := by
  have text : "@@ -".toList = ['@', '@', ' ', '-'] := by decide
  rw [header_eq, text]
  exact (countLine_other (not_title (by decide) _)).trans (by simp)

/-- A line of a hunk adds one if it is a change that does not look like a file header. -/
theorem countLine_hunkLine (bounded : state.count ≤ u32Max) (line : HunkLine) :
    countLine state (seen line.render) =
      state.add (if (isChange line && !hidden line) = true then 1 else 0) := by
  cases line with
  | context text =>
    rw [render_context, countLine_other (not_title (by decide) _)]
    simpa [isChange, HunkLine.changes] using (LineCount.add_zero bounded).symm
  | noNewline =>
    rw [render_noNewline, countLine_other (not_title (by decide) _)]
    simpa [isChange, HunkLine.changes] using (LineCount.add_zero bounded).symm
  | removed text =>
    rw [render_removed, countLine_other (not_title (by decide) _)]
    cases header : ['-', '-', ' '].isPrefixOf text.chars with
    | true => simpa [isChange, hidden, header, HunkLine.changes] using (LineCount.add_zero bounded).symm
    | false => simp [isChange, hidden, header, HunkLine.changes, LineCount.add_one bounded]
  | added text =>
    rw [render_added, countLine_other (not_title (by decide) _)]
    cases header : ['+', '+', ' '].isPrefixOf text.chars with
    | true => simpa [isChange, hidden, header, HunkLine.changes] using (LineCount.add_zero bounded).symm
    | false => simp [isChange, hidden, header, HunkLine.changes, LineCount.add_one bounded]

/-! ### A patch -/

theorem countAll_hunkLines (bounded : state.count ≤ u32Max) (lines : List HunkLine) :
    countAll state (lines.map HunkLine.render) =
      state.add (lines.countP fun line => isChange line && !hidden line) := by
  induction lines generalizing state with
  | nil => exact (LineCount.add_zero bounded).symm
  | cons line rest ih =>
    rw [map_cons, countAll_cons, countLine_hunkLine bounded, ih (LineCount.add_bounded _), LineCount.add_add,
      countP_cons, Nat.add_comm]

theorem countAll_hunks (bounded : state.count ≤ u32Max) (hunks : List Hunk) :
    countAll state (hunks.flatMap Hunk.render) = state.add
      (hunks.map fun hunk => hunk.lines.countP fun line => isChange line && !hidden line).sum := by
  induction hunks generalizing state with
  | nil => exact (LineCount.add_zero bounded).symm
  | cons hunk rest ih =>
    rw [flatMap_cons, countAll_append, Hunk.render, countAll_cons, countLine_hunkHeader,
      countAll_hunkLines bounded, ih (LineCount.add_bounded _), LineCount.add_add, map_cons,
      sum_cons]

theorem countAll_extended (lines : List ExtendedLine)
    (plain : ∀ line ∈ lines, ¬ ['+'] <+: line.chars ∧ ¬ ['-'] <+: line.chars) :
    countAll state (lines.map fun line => line.chars) = state := by
  induction lines with
  | nil => rfl
  | cons line rest ih =>
    rw [map_cons, countAll_cons, countLine_extended line (plain line mem_cons_self)]
    exact ih fun other inside => plain other (mem_cons_of_mem line inside)

theorem countAll_fileHeader (quotePath : Bool) (file : FileSection) :
    countAll state (file.fileHeader quotePath) = state := by
  rw [FileSection.fileHeader]
  split
  · rfl
  have old : ∀ (state : LineCount) (name : List Char),
      countLine state (seen (['-', '-', '-', ' '] ++ name)) = state :=
    fun state name => (countLine_other (not_title (by decide) _)).trans (by simp)
  have new : ∀ (state : LineCount) (name : List Char),
      countLine state (seen (['+', '+', '+', ' '] ++ name)) = state :=
    fun state name => (countLine_other (not_title (by decide) _)).trans (by simp)
  have texts : "--- ".toList = ['-', '-', '-', ' '] ∧ "+++ ".toList = ['+', '+', '+', ' '] := by decide
  rw [texts.1, texts.2, countAll, map_cons, map_singleton, foldl_cons, foldl_cons, old, new]
  rfl

theorem countAll_file (bounded : state.count ≤ u32Max) (quotePath : Bool) (file : FileSection)
    (plain : ∀ line ∈ file.extended, ¬ ['+'] <+: line.chars ∧ ¬ ['-'] <+: line.chars) :
    countAll state (file.lines quotePath) =
      LineCount.add { state with countedFile := countedByTitle file } (visibleLines file) := by
  have start : ({ state with countedFile := countedByTitle file } : LineCount).count ≤ u32Max := bounded
  rw [FileSection.lines, cons_append, cons_append, countAll_cons, countLine_title,
    ← countedByTitle, countAll_append, countAll_append, countAll_extended _ plain,
    countAll_fileHeader, countAll_hunks start, visibleLines, sectionLines]

theorem countAll_files (bounded : state.count ≤ u32Max) (quotePath : Bool) {files : List FileSection}
    (plain : PlainHeaders files) :
    (countAll state (files.flatMap (FileSection.lines quotePath))).count = min u32Max (state.count +
        (files.map fun file => if countedByTitle file then visibleLines file else 0).sum) := by
  induction files generalizing state with
  | nil => exact (min_eq_right bounded).symm
  | cons file rest ih =>
    rw [flatMap_cons, countAll_append, countAll_file bounded quotePath file
      (plain file mem_cons_self), ih (LineCount.add_bounded _)
      fun other inside => plain other (mem_cons_of_mem file inside), map_cons, sum_cons]
    simp only [LineCount.add]
    omega

theorem visibleLines_le (file : FileSection) : visibleLines file ≤ changedLines file := by
  refine sum_le_sum fun hunk _ => countP_mono_left fun line _ both => ?_
  exact (Bool.and_eq_true_iff.1 both).1

theorem counted_balance (files : List FileSection) :
    (files.map fun file => if countedByTitle file then visibleLines file else 0).sum +
        missedLines files = exactCount files + extraLines files := by
  induction files with
  | nil => rfl
  | cons file rest ih =>
    have le := visibleLines_le file
    simp only [missedLines, exactCount, extraLines, filter_cons, map_cons, sum_cons] at ih ⊢
    cases counted file <;> cases title : countedByTitle file <;> simp [title] <;> omega

end Counting

/-- A diff is balanced if every changed line is visible, every title reads as the path of its section,
and the number of changed lines is one of 32 bits. -/
theorem balanced_of_visible {files : List FileSection} (visible : ∀ file ∈ files, ∀ hunk ∈ file.hunks,
      ∀ line ∈ hunk.lines, isChange line = true → hidden line = false)
    (titled : ∀ file ∈ files, titlePath (seen file.title.chars) = sectionPath file)
    (small : exactCount files ≤ u32Max) : Balanced files := by
  have same : ∀ file ∈ files, countedByTitle file = counted file := by
    intro file member
    rw [countedByTitle, titled file member, counted]
  have seenAll : ∀ file ∈ files, visibleLines file = changedLines file := by
    intro file member
    refine congrArg sum (map_congr_left fun hunk inFile => countP_congr fun line inHunk => ?_)
    rw [Bool.and_eq_true, Bool.not_eq_true']
    exact ⟨And.left, fun isChanged => ⟨isChanged, visible file member hunk inFile line inHunk isChanged⟩⟩
  refine .inl ⟨?_, small⟩
  have missed : missedLines files = 0 := by
    rw [missedLines, sum_eq_zero_iff]
    intro count inCounts
    obtain ⟨file, isCounted, rfl⟩ := mem_map.1 inCounts
    obtain ⟨member, counts⟩ := mem_filter.1 isCounted
    rw [same file member, counts, if_pos rfl, seenAll file member, Nat.sub_self]
  have extra : files.filter (fun file => !counted file && countedByTitle file) = [] := by
    rw [filter_eq_nil_iff]
    intro file member
    rw [same file member, Bool.not_and_self]
    exact Bool.false_ne_true
  rw [missed, extraLines, extra]
  rfl

theorem count_render (quotePath : Bool) {files : List FileSection} (plain : PlainHeaders files) :
    countReviewableChangedLines (render quotePath files) = exactCount files ↔ Balanced files := by
  have start : (⟨0, true⟩ : LineCount).count ≤ u32Max := Nat.zero_le _
  have counts := countAll_files start quotePath plain
  have balance := counted_balance files
  rw [countReviewableChangedLines, render, Text.lines_terminated (render_noFeed quotePath files)]
  change (countAll ⟨0, true⟩ (files.flatMap (FileSection.lines quotePath))).count = _ ↔ _
  rw [counts, Balanced]
  simp only
  omega

/-- The counter is exact if and only if what it misses and what it counts by mistake balance; then a
review of recent changes is answered by the changed lines alone. -/
theorem count_exact_iff (quotePath : Bool) (files : List FileSection) : (PlainHeaders files →
      (countReviewableChangedLines (render quotePath files) = exactCount files ↔ Balanced files)) ∧
    ∀ (sizeGateLines : Option ℕ) (ignoreSizeGate : Bool) (patches : List (Bool × List FileSection)),
      (∀ patch ∈ patches, PlainHeaders patch.2 ∧ Balanced patch.2) →
        gateAnswer sizeGateLines ignoreSizeGate
            (patches.map fun patch => countReviewableChangedLines (render patch.1 patch.2)) =
          gateAnswer sizeGateLines ignoreSizeGate (patches.map fun patch => exactCount patch.2) := by
  refine ⟨count_render quotePath, ?_⟩
  intro sizeGateLines ignoreSizeGate patches good
  congr 1
  refine map_congr_left fun patch inside => ?_
  exact (count_render patch.1 (good patch inside).1).2 (good patch inside).2

theorem queryPatch_plain : PlainHeaders queryPatch := by
  intro file inside line listed
  rw [queryPatch, mem_singleton] at inside
  subst inside
  cases listed

/-- The removed comment is not counted, and the change passes a size gate of one line. -/
theorem removed_comment_uncounted :
    (¬ ∀ (quotePath : Bool) (files : List FileSection), PlainHeaders files →
      countReviewableChangedLines (render quotePath files) = exactCount files) ∧
    gateAnswer (some 1) false [countReviewableChangedLines (render false queryPatch)] = .reviewed ∧
    gateAnswer (some 1) false [exactCount queryPatch] = .sizeGateStopped := by
  have found : countReviewableChangedLines (render false queryPatch) = 1 := by decide +kernel
  have exact_ : exactCount queryPatch = 2 := by decide +kernel
  refine ⟨fun always => ?_, by rw [found]; decide, by rw [exact_]; decide⟩
  have same := always false queryPatch queryPatch_plain
  rw [found, exact_] at same
  exact absurd same (by decide)

end Wts.PatchLines
