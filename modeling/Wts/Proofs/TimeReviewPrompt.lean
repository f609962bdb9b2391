/-
Module: Wts.Proofs.TimeReviewPrompt
Purpose: The ledger of a time review as CSV and in the prompt. The CSV is read back as the rows, with
  no text that a spreadsheet takes for a formula. In the prompt it stands between two fences, and the
  closing one is found unless a text of the ledger has a line that starts with three backticks.
Trusted boundary: none
Main exports: toCsv_decodes, prompt_fence_iff
-/
import Wts.Library.Csv
import Wts.Library.Search
import Wts.Library.Utf8
import Wts.Proofs.TimeReviewProposal

namespace Wts.TimeReviewBrief

open List Interrupt

open Text Utf8

theorem csvLine_eq (values : List String) : csvLine values = Csv.line values := rfl

variable {csv first text : List Char}

variable {rows : List TimeReviewLedgerRow}

theorem csvRows_eq_ok {result : List Char} (written : csvRows csv rows = .ok result) :
    result = csv ++ (rows.map csvValues).flatMap Csv.line := by
  induction rows generalizing csv with
  | nil =>
    cases written
    simp
  | cons row rest ih =>
    rw [csvRows] at written
    split at written
    · cases written
    rw [ih written, csvLine_eq, map_cons, flatMap_cons, append_assoc]

variable {brief : TimeReviewAgentBrief}

theorem toCsv_eq_ok (written : brief.toCsv = .ok csv) : brief.validate = .ok () ∧
      csv = csvHeader.toList ++ (brief.ledger.map csvValues).flatMap Csv.line := by
  obtain ⟨_, valid, rows⟩ := bind_eq_ok.1 written
  exact ⟨valid, csvRows_eq_ok rows⟩

/-- The names of the columns. -/
def csvNames : List String :=
  ["id", "started_at_unix_ms", "ended_at_unix_ms", "duration_seconds", "activity_type", "application",
    "context", "detected_jira_issue_key", "source_event_count"]

set_option maxRecDepth 8000 in
theorem decode_csvHeader (rest : List Char) :
    Csv.decode (csvHeader.toList ++ rest) = (Csv.decode rest).map (csvNames :: ·) := by
  rw [csvHeader, String.toList_ofList]
  rfl

/-- A spreadsheet takes a text for a formula by its first character that is not blank. -/
def BeginsFormula (text : String) : Prop :=
  ∃ c rest, text.toList.dropWhile isWhitespace = c :: rest ∧ c ∈ ['=', '+', '-', '@']

/-- The text of a cell is the value, or the value after an apostrophe, and no formula. -/
def Inert (value text : String) : Prop :=
  (text = value ∨ text = "'" ++ value) ∧ ¬ BeginsFormula text

theorem inert_spreadsheetSafe (value : String) : Inert value (spreadsheetSafe value) := by
  rw [spreadsheetSafe]
  split
  · refine ⟨.inr rfl, ?_⟩
    rintro ⟨c, rest, first, formula⟩
    have quoted : ("'" ++ value).toList = '\'' :: value.toList := by simp
    rw [quoted, dropWhile_cons_of_neg (by decide)] at first
    cases first
    exact absurd formula (by decide)
  rename_i plain
  refine ⟨.inl rfl, ?_⟩
  rintro ⟨c, rest, first, formula⟩
  refine plain ?_
  rw [first, head?_cons, Option.any_some]
  simpa [or_assoc] using formula

/-- A record holds the values of a row. -/
def RowDecoded (row : TimeReviewLedgerRow) (record : List String) : Prop :=
  ∃ id activityType application context key,
    record = [id, signedDecimal row.startedAtUnixMs, signedDecimal row.endedAtUnixMs,
      decimal row.durationSeconds, activityType, application, context, key,
      decimal row.sourceEventCount] ∧
    Inert row.id id ∧ Inert row.activityType activityType ∧ Inert row.application application ∧
    Inert row.context context ∧ Inert (row.detectedJiraIssueKey.getD "") key

/-- A reader of the CSV finds the rows of the brief. -/
theorem toCsv_decodes (brief : TimeReviewAgentBrief) (csv : List Char)
    (written : brief.toCsv = .ok csv) : ∃ records, Csv.decode csv = some (csvNames :: records) ∧
      List.Forall₂ RowDecoded brief.ledger records := by
  rw [(toCsv_eq_ok written).2]
  refine ⟨brief.ledger.map csvValues, ?_, ?_⟩
  · have header := decode_csvHeader ((brief.ledger.map csvValues).flatMap Csv.line)
    rw [Csv.decode_lines, Option.map_some] at header
    · exact header
    · intro record member
      obtain ⟨row, _, rfl⟩ := mem_map.1 member
      exact cons_ne_nil _ _
  · rw [forall₂_map_right_iff, forall₂_same]
    intro row _
    exact ⟨_, _, _, _, _, rfl, inert_spreadsheetSafe _, inert_spreadsheetSafe _,
      inert_spreadsheetSafe _, inert_spreadsheetSafe _, inert_spreadsheetSafe _⟩

/-- Three backticks. -/
def fence : List Char := ['`', '`', '`']

/-- What ends a fenced block: a line break and three backticks. -/
def lineFence : List Char := '\n' :: fence

def lines (text : List Char) : List (List Char) :=
  text.splitOn '\n'

theorem lines_append (first rest : List Char) :
    lines (first ++ '\n' :: rest) = lines first ++ lines rest :=
  splitOn_append_cons_self first rest

variable {line pattern rest second chars start prompt : List Char}

theorem lines_of_notMem (one : '\n' ∉ line) : lines line = [line] :=
  splitOn_eq_singleton one

theorem lines_cons (c : Char) (text : List Char) (other : c ≠ '\n') :
    lines (c :: text) = (lines text).modifyHead (c :: ·) := by
  rw [lines, splitOn_cons_eq_if_modifyHead, if_neg (by simpa using other), ← lines]

theorem lines_newline (text : List Char) : lines ('\n' :: text) = [] :: lines text :=
  lines_append [] text

/-- The lines, each with its end, are the text. -/
theorem flatMap_lines (text : List Char) : (lines text).flatMap (· ++ ['\n']) = text ++ ['\n'] := by
  induction text with
  | nil => rfl
  | cons c text ih =>
    by_cases newline : c = '\n'
    · rw [newline, lines_newline, flatMap_cons, ih]
      rfl
    rw [lines_cons c text newline]
    cases found : lines text with
    | nil => exact absurd found (splitOn_ne_nil _ _)
    | cons head tail =>
      rw [found, flatMap_cons] at ih
      rw [modifyHead_cons, flatMap_cons, cons_append, cons_append, ih]
      rfl

/-- The first line starts as the text does, and a later one starts after a line break. -/
theorem prefix_head_lines (one : '\n' ∉ pattern) (text : List Char) :
    (∀ head ∈ (lines text).head?, pattern <+: head) ↔ pattern <+: text := by
  induction text generalizing pattern with
  | nil => simp [lines]
  | cons c text ih =>
    by_cases newline : c = '\n'
    · rw [newline, lines_newline]
      cases pattern with
      | nil => simp
      | cons p pattern =>
        have differs : p ≠ '\n' := fun same => one (same ▸ mem_cons_self)
        simp [cons_prefix_cons, differs]
    rw [lines_cons c text newline]
    cases pattern with
    | nil => simp
    | cons p pattern =>
      have later := ih (fun inside => one (mem_cons_of_mem _ inside))
      cases found : lines text with
      | nil => exact absurd found (splitOn_ne_nil _ _)
      | cons head tail =>
        simp only [found, head?_cons, Option.mem_some_iff, forall_eq'] at later
        simp [cons_prefix_cons, later]

theorem exists_tail_lines_iff (text : List Char) :
    (∃ line ∈ (lines text).tail, fence <+: line) ↔ lineFence <:+: text := by
  induction text with
  | nil => simp [lines, lineFence]
  | cons c text ih =>
    by_cases newline : c = '\n'
    · subst newline
      rw [lines_newline, tail_cons, infix_cons_iff, ← ih, lineFence,
        cons_prefix_cons, ← prefix_head_lines (by decide) text]
      cases found : lines text with
      | nil => exact absurd found (splitOn_ne_nil _ _)
      | cons head tail => simp
    have noStart : ¬ lineFence <+: c :: text := by
      rw [lineFence, cons_prefix_cons]
      exact fun both => newline both.1.symm
    rw [lines_cons c text newline, infix_cons_iff, or_iff_right noStart, ← ih]
    cases lines text <;> rfl

variable {c : Char}

theorem infix_cut_iff (absent : c ∉ lineFence) :
    lineFence <:+: first ++ c :: rest ↔ lineFence <:+: first ∨ lineFence <:+: rest := by
  constructor
  · exact Search.infix_append_cons absent
  rintro (early | late)
  · exact early.trans (prefix_append _ _).isInfix
  exact late.trans ((suffix_cons c rest).isInfix.trans (suffix_append _ _).isInfix)

theorem infix_cons_cut_iff (absent : c ∉ lineFence) :
    lineFence <:+: c :: rest ↔ lineFence <:+: rest := by
  have cut := @infix_cut_iff [] rest c absent
  rw [nil_append] at cut
  rw [cut]
  exact or_iff_right (by decide)

theorem prefix_doubled_iff (noQuote : '"' ∉ pattern) (value : List Char) :
    pattern <+: doubleQuotes value ↔ pattern <+: value := by
  induction value generalizing pattern with
  | nil => rfl
  | cons c value ih =>
    cases pattern with
    | nil => simp
    | cons p pattern =>
      rw [mem_cons, not_or] at noQuote
      rw [doubleQuotes, flatMap_cons, ← doubleQuotes]
      split
      · rename_i quote
        simp [cons_prefix_cons, quote, Ne.symm noQuote.1]
      rw [cons_append, nil_append, cons_prefix_cons, cons_prefix_cons, ih noQuote.2]

theorem infix_doubled_iff (value : List Char) :
    lineFence <:+: doubleQuotes value ↔ lineFence <:+: value := by
  induction value with
  | nil => rfl
  | cons c value ih =>
    by_cases quote : c = '"'
    · subst quote
      have doubled : doubleQuotes ('"' :: value) = '"' :: '"' :: doubleQuotes value := rfl
      rw [doubled, infix_cons_cut_iff (by decide), infix_cons_cut_iff (by decide), ih,
        infix_cons_cut_iff (by decide)]
    have kept : doubleQuotes (c :: value) = c :: doubleQuotes value := by
      rw [doubleQuotes, flatMap_cons, if_neg quote]
      rfl
    have start := prefix_doubled_iff (by decide : '"' ∉ lineFence) (c :: value)
    rw [kept] at start ⊢
    rw [infix_cons_iff, infix_cons_iff, ih, start]

/-- Between a beginning and the rest, a record has the fences of its values. -/
theorem infix_line_iff (first : List Char) (value : String) (values : List String)
    (rest : List Char) :
    lineFence <:+: first ++ (Csv.line (value :: values) ++ rest) ↔ lineFence <:+: first ∨
      (∃ text ∈ value :: values, lineFence <:+: text.toList) ∨ lineFence <:+: '\n' :: rest := by
  induction values generalizing first value with
  | nil =>
    have parts : first ++ (Csv.line [value] ++ rest) =
        first ++ '"' :: (doubleQuotes value.toList ++ '"' :: ('\r' :: ('\n' :: rest))) := by
      simp [Csv.line, Csv.quoted, doubleQuotes]
    rw [parts, infix_cut_iff (by decide), infix_cut_iff (by decide), infix_doubled_iff,
      infix_cons_cut_iff (by decide)]
    simp
  | cons next values ih =>
    have parts : first ++ (Csv.line (value :: next :: values) ++ rest) =
        first ++ '"' :: (doubleQuotes value.toList ++ '"' ::
          (',' :: ([] ++ (Csv.line (next :: values) ++ rest)))) := by
      simp [Csv.line, Csv.quoted, doubleQuotes]
    have empty : ¬ lineFence <:+: [] := by decide
    rw [parts, infix_cut_iff (by decide), infix_cut_iff (by decide), infix_doubled_iff,
      infix_cons_cut_iff (by decide), ih, or_iff_right empty]
    simp only [mem_cons, exists_eq_or_imp, or_assoc]

theorem infix_rows_iff (rows : List TimeReviewLedgerRow) :
    lineFence <:+: '\n' :: (rows.map csvValues).flatMap Csv.line ↔
      ∃ row ∈ rows, ∃ text ∈ csvValues row, lineFence <:+: text.toList := by
  induction rows with
  | nil =>
    refine iff_of_false (by decide) ?_
    simp
  | cons row rows ih =>
    have start := infix_line_iff ['\n'] (spreadsheetSafe row.id) (csvValues row).tail
      ((rows.map csvValues).flatMap Csv.line)
    have empty : ¬ lineFence <:+: ['\n'] := by decide
    rw [or_iff_right empty, ih] at start
    rw [map_cons, flatMap_cons]
    simp only [mem_cons, exists_eq_or_imp]
    exact start

/-! ### Blocks of lines -/

/-- Whole lines of which none starts with a backtick. -/
def Block (text : List Char) : Prop :=
  ∃ whole : List (List Char), text = whole.flatMap (· ++ ['\n']) ∧
    ∀ line ∈ whole, '\n' ∉ line ∧ line.head? ≠ some '`'

theorem Block.append (left : Block first) (right : Block second) : Block (first ++ second) := by
  obtain ⟨firstLines, rfl, firstPlain⟩ := left
  obtain ⟨secondLines, rfl, secondPlain⟩ := right
  refine ⟨firstLines ++ secondLines, by rw [flatMap_append], ?_⟩
  intro line member
  rcases mem_append.1 member with early | late
  · exact firstPlain line early
  exact secondPlain line late

theorem block_line (one : '\n' ∉ line) (start : line.head? ≠ some '`') : Block (line ++ ['\n']) :=
  ⟨[line], by simp, by simpa using ⟨one, start⟩⟩

/-- A text that ends with a line break is a block if its lines are plain. -/
theorem block_ofList (checked : chars.getLast? = some '\n' ∧
    (lines chars.dropLast).all fun line => line.all (· ≠ '\n') && line.head? ≠ some '`') :
    Block (String.ofList chars).toList := by
  rw [String.toList_ofList]
  have same : chars.dropLast ++ ['\n'] = chars :=
    dropLast_append_getLast? _ (Option.mem_def.2 checked.1)
  refine ⟨lines chars.dropLast, by rw [flatMap_lines, same], ?_⟩
  intro line member
  have plain := all_eq_true.1 checked.2 line member
  simp only [Bool.and_eq_true, all_eq_true, decide_eq_true_eq] at plain
  exact ⟨fun inside => plain.1 _ inside rfl, plain.2⟩

theorem lines_block (block : Block text) (rest : List Char) :
    ∃ whole, lines (text ++ rest) = whole ++ lines rest ∧
      ∀ line ∈ whole, line.head? ≠ some '`' := by
  obtain ⟨whole, rfl, plain⟩ := block
  refine ⟨whole, ?_, fun line member => (plain line member).2⟩
  induction whole with
  | nil => rfl
  | cons line whole ih =>
    rw [flatMap_cons, append_assoc, append_assoc, cons_append,
      nil_append, lines_append, lines_of_notMem (plain line mem_cons_self).1,
      ih fun other member => plain other (mem_cons_of_mem _ member)]
    rfl

theorem newline_notMem_promptText (value : String) : '\n' ∉ promptText value := by
  intro inside
  obtain ⟨c, _, same⟩ := mem_map.1 (mem_of_mem_take inside)
  split at same
  · exact absurd same (by decide)
  rename_i plain
  subst same
  simp at plain

theorem block_promptIssue (issue : TimeReviewJiraCandidate) : Block (promptIssue issue) := by
  have key := newline_notMem_promptText issue.issueKey
  have status := newline_notMem_promptText issue.status
  have summary := newline_notMem_promptText issue.summary
  apply block_line
  · simp [key, status, summary]
  simp

theorem block_promptIssues (issues : List TimeReviewJiraCandidate) : Block (promptIssues issues) := by
  rw [promptIssues]
  split
  · exact block_line (show '\n' ∉ "- None".toList by decide) (by decide)
  have all : ∀ issues : List TimeReviewJiraCandidate, Block (issues.flatMap promptIssue) := by
    intro issues
    induction issues with
    | nil => exact ⟨[], rfl, fun _ member => by cases member⟩
    | cons issue issues ih => exact (block_promptIssue issue).append ih
  exact all issues

variable {value : String}

theorem newline_notMem_of_identifier (valid : validIdentifier value = true) :
    '\n' ∉ value.toList := by
  simp only [validIdentifier, Bool.and_eq_true] at valid
  intro inside
  exact absurd (all_eq_true.1 valid.2 _ inside) (by decide)

theorem newline_notMem_of_date (valid : validDate value = true) : '\n' ∉ value.toList := by
  intro inside
  have byte : (10 : UInt8) ∈ utf8Bytes value := by
    rw [utf8Bytes_eq, mem_flatMap]
    exact ⟨'\n', inside, by decide⟩
  simp only [validDate, Bool.and_eq_true, decide_eq_true_eq, all_eq_true] at valid
  obtain ⟨index, bound, same⟩ := mem_iff_getElem.1 byte
  have found : (utf8Bytes value)[index]? = some 10 := by
    rw [getElem?_eq_getElem bound, same]
  have member : (10, index) ∈ (utf8Bytes value).zipIdx := by
    rw [mem_zipIdx_iff_getElem?, found]
  have checked := valid.2 _ member
  simp only [Bool.or_eq_true, Bool.and_eq_true, decide_eq_true_eq] at checked
  rcases checked with (four | seven) | digit
  · rw [four, valid.1.1.2] at found
    cases found
  · rw [seven, valid.1.2] at found
    cases found
  exact absurd digit.1 (by decide)

set_option maxRecDepth 4000 in
theorem block_promptContract {reviewId reviewDate : String} (isId : validIdentifier reviewId = true)
    (isDate : validDate reviewDate = true) : Block (promptContract reviewId reviewDate) := by
  have noId := newline_notMem_of_identifier isId
  have noDate := newline_notMem_of_date isDate
  refine ((((block_line ?_ ?_).append (block_ofList ?_)).append (block_line ?_ ?_)).append
    (block_line ?_ ?_)).append (block_ofList ?_)
  · simp [noId]
  · simp
  · decide
  · simp [noId]
  · simp
  · simp [noDate]
  · simp
  decide

set_option maxRecDepth 4000 in
theorem block_promptIntroduction : Block promptIntroduction := by
  refine ((((((block_ofList ?_).append (block_ofList ?_)).append (block_ofList ?_)).append
    (block_ofList ?_)).append (block_ofList ?_)).append (block_ofList ?_)).append (block_ofList ?_)
  all_goals decide

theorem block_ledgerTitle : Block "\nSanitized activity ledger (CSV context data):\n".toList :=
  block_ofList (by decide)

theorem block_promptStart (valid : brief.validate = .ok ()) : Block (promptStart brief) := by
  have checked := (validate_eq_ok_iff brief).1 valid
  have contract := block_promptContract checked.identity checked.date
  rw [promptStart]
  exact ((block_promptIntroduction.append contract).append
    (block_promptIssues brief.jiraCandidates)).append block_ledgerTitle

def openingFence : List Char := "```csv".toList

/-- The text between the first opening fence and the next line that starts with three backticks. -/
def decodePrompt (prompt : List Char) : Option (List Char) :=
  let body := ((lines prompt).dropWhile (· ≠ openingFence)).drop 1
  let inside := body.takeWhile fun line => !fence.isPrefixOf line
  if inside.length < body.length then some (inside.flatMap (· ++ ['\n'])) else none

/-- The lines of a prompt after its opening fence. -/
theorem body_prompt (block : Block start) :
    ((lines (start ++ "```csv\n".toList ++ (text ++ ['\n']) ++ "```\n".toList)).dropWhile
        (· ≠ openingFence)).drop 1 = lines text ++ [fence, []] := by
  obtain ⟨whole, split, plain⟩ := lines_block block
    (openingFence ++ '\n' :: (text ++ '\n' :: (fence ++ ['\n'])))
  have same : start ++ "```csv\n".toList ++ (text ++ ['\n']) ++ "```\n".toList =
      start ++ (openingFence ++ '\n' :: (text ++ '\n' :: (fence ++ ['\n']))) := by
    rw [show "```csv\n".toList = openingFence ++ ['\n'] by decide,
      show "```\n".toList = fence ++ ['\n'] by decide]
    simp
  have notOpening : ∀ line ∈ whole, decide (line ≠ openingFence) = true := by
    intro line member
    refine decide_eq_true fun equal => plain line member ?_
    rw [equal]
    decide
  rw [same, split, lines_append, lines_of_notMem (by decide : '\n' ∉ openingFence), lines_append,
    lines_append, lines_of_notMem (by decide : '\n' ∉ fence),
    dropWhile_append_of_pos notOpening]
  rfl

theorem length_le_flatMap_lines (whole : List (List Char)) :
    whole.length ≤ (whole.flatMap (· ++ ['\n'])).length := by
  induction whole with
  | nil => exact le_rfl
  | cons line whole ih =>
    rw [flatMap_cons, length_append, length_append, length_cons]
    simp only [length_cons, length_nil]
    omega

theorem keeps_iff (line : List Char) : (!fence.isPrefixOf line) = true ↔ ¬ fence <+: line := by
  rw [Bool.not_eq_true', ← isPrefixOf_iff_prefix, Bool.not_eq_true]

/-- The closing fence is found exactly when no line of the text starts with three backticks. -/
theorem decodePrompt_eq_some_iff (block : Block start) :
    decodePrompt (start ++ "```csv\n".toList ++ (text ++ ['\n']) ++ "```\n".toList) =
        some (text ++ ['\n']) ↔ ∀ line ∈ lines text, ¬ fence <+: line := by
  simp only [decodePrompt, body_prompt block]
  by_cases plain : ∀ line ∈ lines text, ¬ fence <+: line
  · rw [takeWhile_append_of_pos fun line member => (keeps_iff line).2 (plain line member)]
    have stopped : [fence, ([] : List Char)].takeWhile (fun line => !fence.isPrefixOf line) = [] := by
      decide
    rw [stopped, append_nil, if_pos (by simp), flatMap_lines]
    exact iff_of_true rfl plain
  refine iff_of_false (fun found => plain ?_) plain
  intro line member starts
  -- the text that is kept stops before this line, so it is too short
  have left : (lines text).dropWhile (fun line => !fence.isPrefixOf line) ≠ [] := by
    intro none
    exact (keeps_iff line).1 (dropWhile_eq_nil_iff.1 none line member) starts
  have parts := @takeWhile_append_dropWhile _ (fun line => !fence.isPrefixOf line) (lines text)
  have early : (lines text ++ [fence, []]).takeWhile (fun line => !fence.isPrefixOf line) =
      (lines text).takeWhile fun line => !fence.isPrefixOf line := by
    rw [takeWhile_append, if_neg]
    intro whole
    have sizes := congrArg List.length parts
    rw [length_append, whole] at sizes
    have := length_pos_of_ne_nil left
    omega
  rw [early] at found
  split at found
  · have shown := congrArg List.length (Option.some.inj found)
    have sizes := congrArg (fun whole => (whole.flatMap (· ++ ['\n'])).length) parts
    simp only [flatMap_append, length_append, flatMap_lines] at sizes shown
    have rest := length_le_flatMap_lines ((lines text).dropWhile fun line =>
      !fence.isPrefixOf line)
    have := length_pos_of_ne_nil left
    omega
  cases found

theorem newline_of_lineFence (inside : lineFence <:+: text) : '\n' ∈ text :=
  inside.subset mem_cons_self

theorem lineFence_spreadsheetSafe_iff (value : String) :
    lineFence <:+: (spreadsheetSafe value).toList ↔ lineFence <:+: value.toList := by
  rcases (inert_spreadsheetSafe value).1 with same | quoted
  · rw [same]
  rw [quoted, String.toList_append]
  exact infix_cons_cut_iff (by decide)

theorem newline_notMem_decimal (n : ℕ) : '\n' ∉ (decimal n).toList := by
  intro inside
  exact absurd (isDigit_of_mem_decimal inside) (by decide)

theorem newline_notMem_signedDecimal (n : ℤ) : '\n' ∉ (signedDecimal n).toList := by
  rw [signedDecimal]
  split
  · rw [String.toList_append, mem_append, not_or]
    exact ⟨by decide, newline_notMem_decimal _⟩
  exact newline_notMem_decimal _

theorem newline_notMem_of_issueKey {key : String} (valid : validIssueKey key = true) :
    '\n' ∉ key.toList := by
  rw [validIssueKey] at valid
  split at valid
  · cases valid
  rename_i project number parts
  simp only [Bool.and_eq_true, validProjectKey] at valid
  rw [Words.rsplitOnce_eq_some parts, mem_append, mem_cons]
  rintro (inProject | isHyphen | inNumber)
  · cases project with
    | nil => cases inProject
    | cons first rest =>
      simp only [Bool.and_eq_true] at valid
      rcases mem_cons.1 inProject with isFirst | inRest
      · exact absurd (isFirst ▸ valid.1.1.1.1) (by decide)
      exact absurd (all_eq_true.1 valid.1.1.2 _ inRest) (by decide)
  · exact absurd isHyphen (by decide)
  exact absurd (all_eq_true.1 valid.2 _ inNumber) (by decide)

/-- Of the values of a row, three can hold a fence. -/
theorem exists_csvValues_iff {row : TimeReviewLedgerRow} (valid : validRow row = true) :
    (∃ text ∈ csvValues row, lineFence <:+: text.toList) ↔
      ∃ text ∈ [row.activityType, row.application, row.context], lineFence <:+: text.toList := by
  simp only [validRow, Bool.and_eq_true] at valid
  obtain ⟨⟨⟨⟨⟨⟨⟨⟨id, _⟩, _⟩, _⟩, _⟩, _⟩, _⟩, _⟩, key⟩ := valid
  have noId : ¬ lineFence <:+: row.id.toList :=
    fun inside => newline_notMem_of_identifier id (newline_of_lineFence inside)
  have noNumber : ∀ n, ¬ lineFence <:+: (decimal n).toList :=
    fun n inside => newline_notMem_decimal n (newline_of_lineFence inside)
  have noSigned : ∀ n, ¬ lineFence <:+: (signedDecimal n).toList :=
    fun n inside => newline_notMem_signedDecimal n (newline_of_lineFence inside)
  have noKey : ¬ lineFence <:+: (row.detectedJiraIssueKey.getD "").toList := by
    cases found : row.detectedJiraIssueKey with
    | none => decide
    | some text =>
      rw [found] at key
      exact fun inside => newline_notMem_of_issueKey key (newline_of_lineFence inside)
  simp [csvValues, lineFence_spreadsheetSafe_iff, noId, noNumber, noSigned, noKey]

theorem endsLine_rows (start : List Char) (records : List (List String)) :
    ∃ text, start ++ '\n' :: records.flatMap Csv.line = text ++ ['\n'] := by
  induction records generalizing start with
  | nil => exact ⟨start, rfl⟩
  | cons record records ih =>
    obtain ⟨text, same⟩ := ih (start ++ '\n' :: (Csv.line record).dropLast)
    have ended : Csv.line record = (Csv.line record).dropLast ++ ['\n'] := by
      simp [Csv.line]
    refine ⟨text, ?_⟩
    rw [← same, flatMap_cons, ended]
    simp

/-- The names of the columns before their line break. -/
def csvNamesLine : String :=
  "id,started_at_unix_ms,ended_at_unix_ms,duration_seconds,activity_type,application,context,detected_jira_issue_key,source_event_count"

set_option maxRecDepth 8000 in
theorem csvHeader_toList : csvHeader.toList = csvNamesLine.toList ++ ['\r', '\n'] := by
  rewrite [csvHeader, String.toList_ofList, csvNamesLine, String.toList_ofList]
  rfl

set_option maxRecDepth 8000 in
theorem head_csvNamesLine : csvNamesLine.toList = 'i' :: csvNamesLine.toList.tail := by
  rewrite [csvNamesLine, String.toList_ofList]
  rfl

set_option maxRecDepth 8000 in
theorem csvNamesLine_free : ¬ lineFence <:+: csvNamesLine.toList := by
  intro inside
  have newline := newline_of_lineFence inside
  rewrite [csvNamesLine, String.toList_ofList] at newline
  exact absurd newline (by decide)

theorem infix_concat_newline_iff (text : List Char) :
    lineFence <:+: text ++ ['\n'] ↔ lineFence <:+: text := by
  rw [infix_concat_iff]
  refine or_iff_right ?_
  rintro ⟨start, same⟩
  have last := congrArg List.getLast? same
  rw [lineFence, fence] at last
  simp at last

theorem exists_lines_iff (start : ¬ fence <+: text) :
    (∀ line ∈ lines text, ¬ fence <+: line) ↔ ¬ lineFence <:+: text := by
  have first := prefix_head_lines (by decide : '\n' ∉ fence) text
  rw [← exists_tail_lines_iff, not_exists]
  cases found : lines text with
  | nil => exact absurd found (splitOn_ne_nil _ _)
  | cons head tail =>
    rw [found, head?_cons] at first
    simp only [Option.mem_some_iff, forall_eq'] at first
    simp [first, start]

/-- A Jira issue takes one line, and so does the note that there is none. -/
theorem count_promptIssues (issues : List TimeReviewJiraCandidate) :
    (promptIssues issues).count '\n' = max 1 issues.length := by
  have one : ∀ issue : TimeReviewJiraCandidate, (promptIssue issue).count '\n' = 1 := by
    intro issue
    have key := count_eq_zero.2 (newline_notMem_promptText issue.issueKey)
    have status := count_eq_zero.2 (newline_notMem_promptText issue.status)
    have summary := count_eq_zero.2 (newline_notMem_promptText issue.summary)
    simp [promptIssue, count_append, key, status, summary]
  rw [promptIssues]
  split
  · rename_i none
    rw [none]
    decide
  rename_i some
  have counted : ((fun issue => (promptIssue issue).count '\n') : TimeReviewJiraCandidate → ℕ) =
      fun _ => 1 := funext one
  have positive := length_pos_of_ne_nil some
  rw [count_flatMap, Function.comp_def, counted, map_const', sum_replicate, smul_eq_mul, mul_one]
  omega

theorem toAgentPrompt_eq_ok
    (built : brief.toAgentPrompt = .ok prompt) (written : brief.toCsv = .ok csv) :
    prompt = promptStart brief ++ "```csv\n".toList ++ csv ++ "```\n".toList := by
  obtain ⟨_, again, sized⟩ := bind_eq_ok.1 built
  cases written.symm.trans again
  dsimp only at sized
  split at sized
  · cases sized
  cases sized
  rfl

theorem decodePrompt_toAgentPrompt_iff
    (built : brief.toAgentPrompt = .ok prompt) (written : brief.toCsv = .ok csv) :
    decodePrompt prompt = some csv ↔
      ∀ row ∈ brief.ledger, ∀ text ∈ [row.activityType, row.application, row.context],
        ¬ lineFence <:+: text.toList := by
  obtain ⟨valid, rows⟩ := toCsv_eq_ok written
  have checked := (validate_eq_ok_iff brief).1 valid
  rw [csvHeader_toList, append_assoc, cons_append, cons_append, nil_append] at rows
  obtain ⟨text, ended⟩ := endsLine_rows (csvNamesLine.toList ++ ['\r']) (brief.ledger.map csvValues)
  rw [append_assoc, cons_append, nil_append, ← rows] at ended
  have start : ¬ fence <+: text := by
    intro starts
    have whole := starts.trans (prefix_append text ['\n'])
    rw [← ended, rows, head_csvNamesLine, fence, cons_append, cons_prefix_cons] at whole
    exact absurd whole.1 (by decide)
  have free : lineFence <:+: text ↔ ∃ row ∈ brief.ledger,
      ∃ text ∈ [row.activityType, row.application, row.context], lineFence <:+: text.toList := by
    rw [← infix_concat_newline_iff, ← ended, rows, infix_cut_iff (by decide),
      or_iff_right csvNamesLine_free, infix_rows_iff]
    refine exists_congr fun row => and_congr_right fun member => ?_
    exact exists_csvValues_iff (checked.rows row member)
  rw [toAgentPrompt_eq_ok built written, ended,
    decodePrompt_eq_some_iff (block_promptStart valid), exists_lines_iff start, free]
  simp only [not_exists, not_and]

/-- The CSV stays in its fence exactly when no text of the ledger has a line that starts with the fence. -/
theorem prompt_fence_iff (brief : TimeReviewAgentBrief) (prompt csv : List Char)
    (built : brief.toAgentPrompt = .ok prompt) (written : brief.toCsv = .ok csv) :
    decodePrompt prompt = some csv ∧
        (promptIssues brief.jiraCandidates).count '\n' = max 1 brief.jiraCandidates.length ↔
      ∀ row ∈ brief.ledger, ∀ text ∈ [row.activityType, row.application, row.context],
        ¬ lineFence <:+: text.toList := by
  rw [and_iff_left (count_promptIssues _)]
  exact decodePrompt_toAgentPrompt_iff built written

theorem csvRows_of_short
    (short : 4 * (csv ++ (rows.map csvValues).flatMap Csv.line).length ≤ maxPromptBytes) :
    csvRows csv rows = .ok (csv ++ (rows.map csvValues).flatMap Csv.line) := by
  induction rows generalizing csv with
  | nil => simp [csvRows]
  | cons row rest ih =>
    rw [map_cons, flatMap_cons, ← append_assoc] at short ⊢
    have bytes := utf8ByteSize_ofList_le (csv ++ Csv.line (csvValues row))
    have part : (csv ++ Csv.line (csvValues row)).length ≤
        (csv ++ Csv.line (csvValues row) ++ (rest.map csvValues).flatMap Csv.line).length :=
      (prefix_append _ _).length_le
    rw [csvRows, csvLine_eq, if_neg (by omega), ih short]

theorem toCsv_of_short (valid : brief.validate = .ok ())
    (short : 4 * (csvHeader.toList ++ (brief.ledger.map csvValues).flatMap Csv.line).length ≤
      maxPromptBytes) :
    brief.toCsv = .ok (csvHeader.toList ++ (brief.ledger.map csvValues).flatMap Csv.line) := by
  rw [TimeReviewAgentBrief.toCsv, valid]
  exact csvRows_of_short short

theorem toAgentPrompt_of_short (written : brief.toCsv = .ok csv)
    (short : 4 * (promptStart brief ++ "```csv\n".toList ++ csv ++ "```\n".toList).length ≤
      maxPromptBytes) : brief.toAgentPrompt =
      .ok (promptStart brief ++ "```csv\n".toList ++ csv ++ "```\n".toList) := by
  have bytes := utf8ByteSize_ofList_le
    (promptStart brief ++ "```csv\n".toList ++ csv ++ "```\n".toList)
  have fits : ¬ (String.ofList (promptStart brief ++ "```csv\n".toList ++ csv ++
      "```\n".toList)).utf8ByteSize > maxPromptBytes := by omega
  refine bind_eq_ok.2 ⟨csv, written, ?_⟩
  dsimp only
  rw [if_neg fits]
  rfl

/-- The row of a sample brief in the CSV. -/
def rowsWith (context : String) : List Char :=
  ((briefWith context).ledger.map csvValues).flatMap Csv.line

def csvWith (context : String) : List Char :=
  csvHeader.toList ++ rowsWith context

def promptWith (context : String) : List Char :=
  promptStart (briefWith context) ++ "```csv\n".toList ++ csvWith context ++ "```\n".toList

variable {n : ℕ}

theorem length_ofList_le (short : chars.length ≤ n) : (String.ofList chars).toList.length ≤ n := by
  rwa [String.toList_ofList]

theorem length_append_le {m : ℕ} (left : first.length ≤ m)
    (right : second.length ≤ n) : (first ++ second).length ≤ m + n := by
  rw [length_append]
  omega

variable {context : String}

set_option maxRecDepth 4000 in
theorem length_csvWith_le (short : (rowsWith context).length ≤ 200) :
    (csvWith context).length ≤ 150 + 200 :=
  length_append_le (length_ofList_le (by decide)) short

set_option maxRecDepth 4000 in
theorem length_promptIntroduction_le :
    promptIntroduction.length ≤ 50 + 250 + 100 + 100 + 200 + 100 + 200 := by
  refine length_append_le (length_append_le (length_append_le (length_append_le (length_append_le
    (length_append_le ?_ ?_) ?_) ?_) ?_) ?_) ?_
  all_goals exact length_ofList_le (by decide)

set_option maxRecDepth 4000 in
theorem length_promptContract_le : (promptContract "r" "2026-07-01").length ≤
      50 + 10 + 50 + 10 + 250 + (50 + 10 + 10) + (50 + 20 + 10) + 50 := by
  refine length_append_le (length_append_le (length_append_le (length_append_le (length_append_le
    (length_append_le (length_append_le ?_ ?_) ?_) ?_) ?_) (length_append_le
    (length_append_le ?_ ?_) ?_)) (length_append_le (length_append_le ?_ ?_) ?_)) ?_
  all_goals first
    | exact length_ofList_le (by decide)
    | decide

theorem length_promptWith_le (short : (rowsWith context).length ≤ 200) :
    (promptWith context).length ≤ 2500 := by
  have issues : (promptIssues (briefWith "").jiraCandidates).length ≤ 20 := by decide
  have title : "\nSanitized activity ledger (CSV context data):\n".toList.length ≤ 50 :=
    length_ofList_le (by decide)
  have start := length_append_le (length_append_le (length_append_le length_promptIntroduction_le
    length_promptContract_le) issues) title
  have opening : "```csv\n".toList.length ≤ 10 := length_ofList_le (by decide)
  have closing : "```\n".toList.length ≤ 10 := length_ofList_le (by decide)
  exact (length_append_le (length_append_le (length_append_le start opening)
    (length_csvWith_le short)) closing).trans (by decide)

theorem toCsv_briefWith (valid : (briefWith context).validate = .ok ())
    (short : (rowsWith context).length ≤ 200) :
    (briefWith context).toCsv = .ok (csvWith context) := by
  refine toCsv_of_short valid ?_
  exact (Nat.mul_le_mul_left 4 (length_csvWith_le short)).trans (by decide)

theorem toAgentPrompt_briefWith (valid : (briefWith context).validate = .ok ())
    (short : (rowsWith context).length ≤ 200) :
    (briefWith context).toAgentPrompt = .ok (promptWith context) := by
  refine toAgentPrompt_of_short (toCsv_briefWith valid short) ?_
  exact (Nat.mul_le_mul_left 4 (length_promptWith_le short)).trans (by decide)

theorem toCsv_decodes_formula : ∃ records, Csv.decode (csvWith "=1") = some (csvNames :: records) ∧
      List.Forall₂ RowDecoded (briefWith "=1").ledger records :=
  toCsv_decodes (briefWith "=1") (csvWith "=1")
    (toCsv_briefWith (by decide) (by decide +kernel))

theorem prompt_fence_iff_formula : decodePrompt (promptWith "=1") = some (csvWith "=1") ∧
        (promptIssues (briefWith "=1").jiraCandidates).count '\n' =
          max 1 (briefWith "=1").jiraCandidates.length ↔
      ∀ row ∈ (briefWith "=1").ledger, ∀ text ∈ [row.activityType, row.application, row.context],
        ¬ lineFence <:+: text.toList := by
  have valid : (briefWith "=1").validate = .ok () := by decide
  have short : (rowsWith "=1").length ≤ 200 := by decide
  exact prompt_fence_iff _ _ _ (toAgentPrompt_briefWith valid short) (toCsv_briefWith valid short)

/-- A context with a line of three backticks ends the block of the ledger. -/
theorem context_fence_counterexample : (briefWith "a\n```\n").toCsv = .ok (csvWith "a\n```\n") ∧
      (briefWith "a\n```\n").toAgentPrompt = .ok (promptWith "a\n```\n") ∧
      decodePrompt (promptWith "a\n```\n") ≠ some (csvWith "a\n```\n") := by
  have valid : (briefWith "a\n```\n").validate = .ok () := by decide
  have short : (rowsWith "a\n```\n").length ≤ 200 := by decide
  have written := toCsv_briefWith valid short
  have built := toAgentPrompt_briefWith valid short
  refine ⟨written, built, fun found => ?_⟩
  have free := (decodePrompt_toAgentPrompt_iff built written).1 found
  exact free _ mem_cons_self "a\n```\n" (by decide) (by decide)

end Wts.TimeReviewBrief
