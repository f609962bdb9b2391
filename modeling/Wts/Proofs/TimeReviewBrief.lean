/-
Module: Wts.Proofs.TimeReviewBrief
Purpose: When the brief of a daily review is valid.
Trusted boundary: none
Main exports: fromDailyReview_valid_iff
-/
import Wts.Integrations.TimeReviewBrief
import Wts.Proofs.ActivityEvidence

namespace Wts.JiraMcp

open Text Words ActivityWatch List

/-! ### Extracted issues -/

structure KeyShape (key : String) (project number : List Char) : Prop where
  parts : rsplitOnce '-' key.toList = some (project, number)
  projectNonempty : project ≠ []
  numberNonempty : number ≠ []
  projectShort : (String.ofList project).utf8ByteSize ≤ 32
  projectCharacters : project.all isProjectCharacter = true
  numberDigits : number.all Char.isDigit = true

theorem validateIssueKey_eq_ok {value key : String} (valid : validateIssueKey value = .ok key) :
    ∃ project number, KeyShape key project number := by
  simp only [validateIssueKey] at valid
  split at valid
  · cases valid
  rename_i project number parts
  split at valid
  · cases valid
  rename_i shape
  simp only [not_or, not_lt, not_not] at shape
  obtain ⟨projectNonempty, numberNonempty, projectShort, _, projectCharacters, digits⟩ := shape
  cases valid
  exact ⟨project, number, parts, projectNonempty, numberNonempty, projectShort, projectCharacters,
    digits⟩

/-- What is known of the issues that were taken. -/
structure Extracted (issues : List JiraActiveIssue) : Prop where
  keys : ∀ issue ∈ issues, ∃ project number, KeyShape issue.issueKey project number
  summaries : ∀ issue ∈ issues, trim issue.summary ≠ "" ∧ issue.summary.utf8ByteSize ≤ 512
  statuses : ∀ issue ∈ issues, trim issue.status ≠ "" ∧ issue.status.utf8ByteSize ≤ 128
  distinct : (issues.map JiraActiveIssue.issueKey).Nodup

variable {issues : List JiraActiveIssue}

theorem extractIssue_extracted {result : List JiraActiveIssue} {issue : Json}
    (before : Extracted issues) (extracted : extractIssue issues issue = .ok result) :
    Extracted result ∧ result.length ≤ issues.length + 1 := by
  simp only [extractIssue] at extracted
  split at extracted
  · cases extracted
  rename_i raw _
  rcases valid : validateIssueKey raw with error | key
  · rw [valid] at extracted
    cases extracted
  rw [valid] at extracted
  simp only [bind, Except.bind] at extracted
  split at extracted
  · cases extracted
    exact ⟨before, Nat.le_succ _⟩
  rename_i fresh
  split at extracted
  · rename_i summary status isSummary isStatus
    split at extracted
    · cases extracted
    rename_i short
    rw [not_or, not_lt, not_lt] at short
    have summaryText := Option.filter_eq_some_iff.1 isSummary
    have statusText := Option.filter_eq_some_iff.1 isStatus
    cases extracted
    refine ⟨⟨?_, ?_, ?_, ?_⟩, by simp⟩
    · intro other member
      rcases mem_append.1 member with old | new
      · exact before.keys other old
      rw [mem_singleton.1 new]
      exact validateIssueKey_eq_ok valid
    · intro other member
      rcases mem_append.1 member with old | new
      · exact before.summaries other old
      rw [mem_singleton.1 new]
      exact ⟨of_decide_eq_true summaryText.2, short.1⟩
    · intro other member
      rcases mem_append.1 member with old | new
      · exact before.statuses other old
      rw [mem_singleton.1 new]
      exact ⟨of_decide_eq_true statusText.2, short.2⟩
    rw [map_append, nodup_append]
    refine ⟨before.distinct, nodup_singleton _, ?_⟩
    rintro first isFirst second isSecond rfl
    obtain ⟨other, member, rfl⟩ := mem_map.1 isFirst
    rw [map_singleton, mem_singleton] at isSecond
    apply fresh
    rw [any_eq_true]
    exact ⟨other, member, decide_eq_true isSecond⟩
  cases extracted

theorem extractActiveIssues_extracted {content : Option Json}
    (extracted : extractActiveIssues content = .ok issues) :
    Extracted issues ∧ issues.length ≤ maxActiveIssues := by
  have fold : ∀ (values : List Json) (before result : List JiraActiveIssue), Extracted before →
      values.foldlM extractIssue before = .ok result →
        Extracted result ∧ result.length ≤ before.length + values.length := by
    intro values
    induction values with
    | nil =>
      intro before result taken folded
      cases folded
      exact ⟨taken, le_rfl⟩
    | cons value values ih =>
      intro before result taken folded
      rw [foldlM_cons] at folded
      rcases first : extractIssue before value with error | middle
      · rw [first] at folded
        cases folded
      rw [first] at folded
      obtain ⟨takenMiddle, longer⟩ := extractIssue_extracted taken first
      obtain ⟨takenResult, longest⟩ := ih middle result takenMiddle folded
      refine ⟨takenResult, ?_⟩
      rw [length_cons]
      omega
  simp only [extractActiveIssues] at extracted
  split at extracted
  · cases extracted
  split at extracted
  · cases extracted
  split at extracted
  · cases extracted
  rename_i values _ few
  have none : Extracted [] :=
    ⟨fun _ member => absurd member not_mem_nil, fun _ member => absurd member not_mem_nil,
      fun _ member => absurd member not_mem_nil, nodup_nil⟩
  obtain ⟨taken, short⟩ := fold values [] issues none extracted
  rw [length_nil, Nat.zero_add] at short
  exact ⟨taken, short.trans (Nat.not_lt.1 few)⟩

end Wts.JiraMcp

namespace Wts.TimeReviewBrief

open Text Words ActivityWatch JiraMcp List

/-- A first element that is new and valid is accepted with a list that stays away from its key. -/
theorem accepts_cons_iff {α : Type} {key : α → String} {valid : α → Bool} {keys : List String}
    {first : α} {rest : List α} (fresh : key first ∉ keys) (isValid : valid first = true) :
    ((∀ other ∈ rest, key other ∉ key first :: keys ∧ valid other = true) ∧ (rest.map key).Nodup) ↔
      ((key first ∉ keys ∧ valid first = true) ∧
        ∀ other ∈ rest, key other ∉ keys ∧ valid other = true) ∧
          key first ∉ rest.map key ∧ (rest.map key).Nodup := by
  simp only [mem_cons, not_or, mem_map, not_exists, not_and]
  constructor
  · rintro ⟨others, distinct⟩
    exact ⟨⟨⟨fresh, isValid⟩, fun other member => ⟨(others other member).1.2,
      (others other member).2⟩⟩, fun other member => (others other member).1.1, distinct⟩
  rintro ⟨⟨_, others⟩, differs, distinct⟩
  exact ⟨fun other member => ⟨⟨differs other member, (others other member).1⟩,
    (others other member).2⟩, distinct⟩

theorem validateRows_eq_ok_iff (rowIds : List String) (rows : List TimeReviewLedgerRow) :
    validateRows rowIds rows = .ok () ↔ (∀ row ∈ rows, row.id ∉ rowIds ∧ validRow row = true) ∧
        (rows.map TimeReviewLedgerRow.id).Nodup := by
  induction rows generalizing rowIds with
  | nil => simp [validateRows]
  | cons row rest ih =>
    rw [validateRows, map_cons, nodup_cons, forall_mem_cons]
    split
    · rename_i repeated
      simp [repeated]
    rename_i fresh
    split
    · rename_i valid
      exact (ih _).trans (accepts_cons_iff fresh valid)
    rename_i invalid
    simp [invalid]

theorem validateCandidates_eq_ok_iff (issueKeys : List String)
    (candidates : List TimeReviewJiraCandidate) : validateCandidates issueKeys candidates = .ok () ↔
      (∀ issue ∈ candidates, issue.issueKey ∉ issueKeys ∧ validCandidate issue = true) ∧
        (candidates.map TimeReviewJiraCandidate.issueKey).Nodup := by
  induction candidates generalizing issueKeys with
  | nil => simp [validateCandidates]
  | cons issue rest ih =>
    rw [validateCandidates, map_cons, nodup_cons, forall_mem_cons]
    split
    · rename_i valid
      split
      · rename_i repeated
        simp [repeated]
      rename_i fresh
      exact (ih _).trans (accepts_cons_iff fresh valid)
    rename_i invalid
    simp [invalid]

/-- What the check asks for. -/
structure Valid (brief : TimeReviewAgentBrief) : Prop where
  schema : brief.schemaVersion = timeReviewSchemaVersion
  identity : validIdentifier brief.reviewId = true
  date : validDate brief.reviewDate = true
  generated : 0 < brief.generatedAtUnixMs
  fewRows : brief.ledger.length ≤ maxLedgerRows
  fewCandidates : brief.jiraCandidates.length ≤ maxJiraCandidates
  rows : ∀ row ∈ brief.ledger, validRow row = true
  rowsDistinct : (brief.ledger.map TimeReviewLedgerRow.id).Nodup
  candidates : ∀ issue ∈ brief.jiraCandidates, validCandidate issue = true
  candidatesDistinct : (brief.jiraCandidates.map TimeReviewJiraCandidate.issueKey).Nodup

theorem validate_eq_ok_iff (brief : TimeReviewAgentBrief) :
    brief.validate = .ok () ↔ Valid brief := by
  have rows := validateRows_eq_ok_iff [] brief.ledger
  have candidates := validateCandidates_eq_ok_iff [] brief.jiraCandidates
  simp only [not_mem_nil, not_false_eq_true, true_and] at rows candidates
  constructor
  · intro valid
    simp only [TimeReviewAgentBrief.validate] at valid
    split at valid
    · cases valid
    rename_i schema
    split at valid
    · cases valid
    rename_i identity
    split at valid
    · cases valid
    rename_i date
    split at valid
    · cases valid
    rename_i generated
    split at valid
    · cases valid
    rename_i fewRows
    split at valid
    · cases valid
    rename_i fewCandidates
    rcases rowsValid : validateRows [] brief.ledger with error | done
    · rw [rowsValid] at valid
      cases valid
    rw [rowsValid] at valid
    obtain ⟨allRows, rowsDistinct⟩ := rows.1 rowsValid
    obtain ⟨allCandidates, candidatesDistinct⟩ := candidates.1 valid
    exact ⟨not_not.1 schema, not_not.1 identity, not_not.1 date, not_le.1 generated,
      not_lt.1 fewRows, not_lt.1 fewCandidates, allRows, rowsDistinct, allCandidates,
      candidatesDistinct⟩
  intro valid
  rw [TimeReviewAgentBrief.validate, if_neg (not_not.2 valid.schema),
    if_neg (not_not.2 valid.identity), if_neg (not_not.2 valid.date),
    if_neg (not_le.2 valid.generated), if_neg (not_lt.2 valid.fewRows),
    if_neg (not_lt.2 valid.fewCandidates), rows.2 ⟨valid.rows, valid.rowsDistinct⟩]
  exact candidates.2 ⟨valid.candidates, valid.candidatesDistinct⟩

/-! ### Texts -/

variable {value text key : String}

theorem trim_ne_empty_iff : trim value ≠ "" ↔ ∃ c ∈ value.toList, isWhitespace c = false := by
  rw [ne_eq, trim, ← String.toList_inj, String.toList_ofList, trimChars]
  constructor
  · intro nonempty
    by_contra blank
    apply nonempty
    have all : ∀ c ∈ value.toList, isWhitespace c = true := by
      intro c member
      by_contra visible
      exact blank ⟨c, member, by simpa using visible⟩
    rw [dropWhile_eq_nil_iff.2 all]
    rfl
  rintro ⟨c, member, visible⟩ empty
  have suffix : ∀ d ∈ value.toList.dropWhile isWhitespace, isWhitespace d = true :=
    rdropWhile_eq_nil_iff.1 empty
  have none : value.toList.dropWhile isWhitespace = [] := by
    by_contra some
    have first := head_dropWhile_not isWhitespace some
    rw [suffix _ (head_mem some)] at first
    cases first
  rw [dropWhile_eq_nil_iff.1 none c member] at visible
  cases visible

variable {maxBytes n : ℕ}

theorem validText_iff : validText value maxBytes = true ↔
      (∃ c ∈ value.toList, isWhitespace c = false) ∧ value.utf8ByteSize ≤ maxBytes ∧
        '\x00' ∉ value.toList := by
  rw [← trim_ne_empty_iff]
  simp only [validText, ne_eq, Bool.and_eq_true, decide_eq_true_eq, Bool.not_eq_true',
    contains_eq_mem, decide_eq_false_iff_not, and_assoc]

/-- Characters that may be shown: they are not all blank, and there is no zero among them. -/
structure Showable (chars : List Char) : Prop where
  visible : ∃ c, chars.head? = some c ∧ isWhitespace c = false
  noZero : '\x00' ∉ chars

variable {chars project number : List Char}

theorem Showable.take (showable : Showable chars)
    (nonempty : chars.take n ≠ []) : Showable (chars.take n) := by
  obtain ⟨c, first, visible⟩ := showable.visible
  refine ⟨⟨c, ?_, visible⟩, fun zero => showable.noZero (mem_of_mem_take zero)⟩
  cases chars with
  | nil => cases first
  | cons d chars =>
    cases n with
    | zero => exact absurd rfl nonempty
    | succ n => exact first

theorem showable_join {separator first : List Char} {rest : List (List Char)}
    (noZero : '\x00' ∉ separator) (pieces : ∀ piece ∈ first :: rest, Showable piece) :
    Showable (join separator (first :: rest)) := by
  obtain ⟨c, isFirst, visible⟩ := (pieces first mem_cons_self).visible
  refine ⟨⟨c, ?_, visible⟩, ?_⟩
  · rw [head_join]
    · exact isFirst
    · intro empty
      rw [empty] at isFirst
      cases isFirst
  intro zero
  rcases mem_join zero with inSeparator | ⟨piece, isPiece, inPiece⟩
  · exact noZero inSeparator
  exact (pieces piece isPiece).noZero inPiece

theorem Showable.validText (showable : Showable chars)
    (short : chars.length ≤ n) (fits : 4 * n ≤ maxBytes) :
    validText (String.ofList chars) maxBytes = true := by
  rw [validText_iff, String.toList_ofList]
  obtain ⟨c, first, visible⟩ := showable.visible
  have bytes := utf8ByteSize_ofList_le chars
  exact ⟨⟨c, mem_of_mem_head? first, visible⟩, by omega, showable.noZero⟩

theorem sanitizeEvidence_showable {maximum : ℕ}
    (nonempty : sanitizeEvidence value maximum ≠ []) : Showable (sanitizeEvidence value maximum) := by
  obtain ⟨plain, noControl⟩ : Plain isWhitespace (keptTokens false (splitWhitespace value)) ∧ _ :=
    keptTokens_plain (splitWhitespace_plain value)
  rw [sanitizeEvidence, truncateCharacters] at nonempty ⊢
  refine Showable.take ?_ nonempty
  have tokens : ∀ token ∈ keptTokens false (splitWhitespace value), Showable token := by
    intro token member
    obtain ⟨c, rest, rfl⟩ := exists_cons_of_ne_nil (plain token member).1
    refine ⟨⟨c, rfl, (plain _ member).2 c mem_cons_self⟩, ?_⟩
    intro zero
    have control := noControl _ member _ zero
    revert control
    decide
  cases kept : keptTokens false (splitWhitespace value) with
  | nil =>
    rw [kept] at nonempty
    exact absurd (by simp [join]) nonempty
  | cons first rest =>
    rw [kept] at tokens
    exact showable_join (by decide) tokens

theorem sanitizeApplication_valid {kind : SessionKind}
    (shown : sanitizeApplication value kind = some text) :
    validText text maxSummaryBytes = true := by
  rw [sanitizeApplication] at shown
  split at shown
  · rename_i label known
    rw [← Option.some.inj shown]
    rw [canonicalApplication, Option.map_eq_some_iff] at known
    obtain ⟨entry, found, rfl⟩ := known
    have labels : ∀ entry ∈ canonicalApplications, validText entry.2 maxSummaryBytes = true := by
      decide
    exact labels entry (mem_of_find?_eq_some found)
  by_cases empty : sanitizeEvidence value maxApplicationEvidenceCharacters = []
  · rw [if_pos empty] at shown
    cases kind <;> cases shown <;> decide
  rw [if_neg empty] at shown
  rw [← Option.some.inj shown]
  exact (sanitizeEvidence_showable empty).validText (length_sanitizeEvidence _ _) (by decide)

theorem sanitizeContextEvidence_valid {title project : String}
    (shown : sanitizeContextEvidence title project = some text) :
    validText text maxTextBytes = true := by
  have parts : ∀ part ∈ evidenceParts title project, Showable part := by
    intro part member
    simp only [evidenceParts_eq] at member
    split at member
    · split at member
      · cases member
      · rename_i nonempty
        rw [mem_singleton.1 member]
        exact sanitizeEvidence_showable nonempty
    rename_i nonempty
    split at member
    · rw [mem_singleton.1 member]
      exact sanitizeEvidence_showable nonempty
    rename_i second
    rw [not_or] at second
    rcases mem_cons.1 member with rfl | later
    · exact sanitizeEvidence_showable nonempty
    rw [mem_singleton.1 later]
    exact sanitizeEvidence_showable second.1
  rw [sanitizeContextEvidence] at shown
  by_cases empty : truncateCharacters (join " · ".toList (evidenceParts title project))
      maxContextEvidenceCharacters = []
  · rw [if_pos empty] at shown
    cases shown
  rw [if_neg empty] at shown
  rw [← Option.some.inj shown]
  refine Showable.validText ?_ (length_take_le _ _) (by decide)
  refine Showable.take ?_ empty
  cases found : evidenceParts title project with
  | nil =>
    rw [found] at empty
    exact absurd (by simp [join, truncateCharacters]) empty
  | cons first rest =>
    rw [found] at parts
    exact showable_join (by decide) parts

/-- What stands before the last dash of an issue key. -/
def projectOf (key : String) : List Char :=
  ((rsplitOnce '-' key.toList).map Prod.fst).getD []

/-- The project of the key starts with a capital letter. -/
def ProjectStarts (key : String) : Prop :=
  ∃ c, (projectOf key).head? = some c ∧ c.isUpper = true

/-- The project is not too long. -/
def ProjectShort (key : String) : Prop :=
  (String.ofList (projectOf key)).utf8ByteSize ≤ 32

theorem validIssueKey_iff (parts : rsplitOnce '-' key.toList = some (project, number))
    (projectCharacters : project.all isProjectCharacter = true) (numberNonempty : number ≠ [])
    (numberDigits : number.all Char.isDigit = true) :
    validIssueKey key = true ↔ ProjectStarts key ∧ ProjectShort key := by
  have isProject : projectOf key = project := by
    rw [projectOf, parts]
    rfl
  rw [ProjectStarts, ProjectShort, isProject, validIssueKey, parts]
  cases project with
  | nil => simp [validProjectKey]
  | cons first rest =>
    rw [all_cons, Bool.and_eq_true] at projectCharacters
    simp [validProjectKey, projectCharacters.2, numberNonempty, numberDigits]

theorem findJiraIssueKey_shape (found : findJiraIssueKey value = some key) :
    ∃ project number, rsplitOnce '-' key.toList = some (project, number) ∧
      project.all isProjectCharacter = true ∧ number ≠ [] ∧ number.all Char.isDigit = true := by
  rw [findJiraIssueKey, Option.map_eq_some_iff] at found
  obtain ⟨token, isKey, rfl⟩ := found
  have shape := find?_some isKey
  rw [isJiraKey] at shape
  split at shape
  · cases shape
  rename_i project number parts
  simp only [Bool.and_eq_true, Bool.not_eq_true', isEmpty_eq_false_iff] at shape
  rw [String.toList_ofList]
  exact ⟨project, number, parts, shape.1.1.2, shape.1.2, shape.2⟩

theorem noZero_of_key (parts : rsplitOnce '-' key.toList = some (project, number))
    (projectCharacters : project.all isProjectCharacter = true)
    (numberDigits : number.all Char.isDigit = true) : '\x00' ∉ key.toList := by
  rw [rsplitOnce_eq_some parts, mem_append, mem_cons]
  rintro (inProject | isHyphen | inNumber)
  · have character := all_eq_true.1 projectCharacters _ inProject
    revert character
    decide
  · revert isHyphen
    decide
  have digit := all_eq_true.1 numberDigits _ inNumber
  revert digit
  decide

variable {buckets : List ActivityBucket} {jiraIssues : List JiraActiveIssue}
variable {startedAtUnixMs endedAtUnixMs : ℤ} {review : DailyReview}

theorem showable_append {start rest : List Char}
    (visible : start.head?.any (fun c => !isWhitespace c) = true)
    (noZero : start.contains '\x00' = false) (restNoZero : '\x00' ∉ rest) :
    Showable (start ++ rest) := by
  rw [contains_eq_mem, decide_eq_false_iff_not] at noZero
  refine ⟨?_, ?_⟩
  · cases start with
    | nil => cases visible
    | cons c start => exact ⟨c, rfl, by simpa using visible⟩
  rw [mem_append]
  exact fun either => either.elim noZero restNoZero

def describeStart : SessionKind → String
  | .coding => "Coding work for "
  | .agent => "Agent-assisted work for "
  | .browser => "Browser research for "
  | .communication => "Communication for "
  | .terminal => "Terminal work for "
  | .other => "Work related to "

theorem describe_some (kind : SessionKind) (key : String) :
    describe kind (some key) = describeStart kind ++ key := by
  cases kind <;> rfl

theorem describe_showable (kind : SessionKind) (key : Option String)
    (noZero : ∀ text, key = some text → '\x00' ∉ text.toList) :
    Showable (describe kind key).toList := by
  cases key with
  | none =>
    rw [← append_nil (describe kind none).toList]
    refine showable_append ?_ ?_ not_mem_nil
    · cases kind <;> decide
    cases kind <;> decide
  | some text =>
    rw [describe_some, String.toList_append]
    refine showable_append ?_ ?_ (noZero text rfl)
    · cases kind <;> decide
    cases kind <;> decide

/-- What holds of every session of a review. -/
structure SessionFacts (session : SessionCandidate) : Prop where
  started : 0 ≤ session.startedAtUnixMs
  ended : session.startedAtUnixMs < session.endedAtUnixMs
  lasting : 0 < session.durationSeconds
  counted : 0 < session.sourceEventCount
  application : ∀ text, session.application = some text → validText text maxSummaryBytes = true
  evidence : ∀ text, session.activityEvidence = some text → validText text maxTextBytes = true
  description : Showable session.description.toList
  key : ∀ key, session.jiraIssueKey = some key →
    ∃ project number, rsplitOnce '-' key.toList = some (project, number) ∧
      project.all isProjectCharacter = true ∧ number ≠ [] ∧ number.all Char.isDigit = true

variable {session : SessionCandidate}

theorem dailyReview_facts (returned :
    dailyReview (.ok buckets) startedAtUnixMs endedAtUnixMs jiraIssues = .ok review)
    (member : session ∈ review.sessions) : SessionFacts session := by
  obtain ⟨reading, source⟩ := dailyReview_returned returned
  rw [source.sessions] at member
  obtain ⟨low, nonempty, _⟩ := sessionize_inside source.ended.le session member
  obtain ⟨carried, lasting⟩ := sessionize_carried session member
  obtain ⟨activity, isActivity, kind, description, application, evidence⟩ := carried.shown
  obtain ⟨_, _, _, _, event, _, _, _, _, rfl⟩ := readBuckets_activities source.read activity isActivity
  obtain ⟨other, isOther, key⟩ := carried.issue
  obtain ⟨_, _, _, _, _, _, _, _, _, rfl⟩ := readBuckets_activities source.read other isOther
  refine ⟨source.started.trans low, nonempty, lasting, carried.counted, ?_, ?_, ?_, ?_⟩
  · intro text shown
    rw [application, fromEvent_application] at shown
    exact sanitizeApplication_valid shown
  · intro text shown
    rw [evidence, fromEvent_activityEvidence] at shown
    exact sanitizeContextEvidence_valid shown
  · rw [description, fromEvent_description]
    refine describe_showable _ _ ?_
    intro text found
    obtain ⟨project, number, parts, characters, _, digits⟩ := findJiraIssueKey_shape found
    exact noZero_of_key parts characters digits
  intro text found
  rw [key, fromEvent_jiraIssueKey] at found
  exact findJiraIssueKey_shape found

theorem validRow_ledgerRow_iff (facts : SessionFacts session)
    (identity : validIdentifier session.id = true) : validRow (ledgerRow session) = true ↔
      (∀ key, session.jiraIssueKey = some key → ProjectStarts key ∧ ProjectShort key) ∧
        (session.activityEvidence = none → session.description.utf8ByteSize ≤ maxTextBytes) := by
  have kind : validText (activityType session.kind) maxSummaryBytes = true := by
    cases session.kind <;> decide
  have application : validText (session.application.getD "Unknown application") maxSummaryBytes =
      true := by
    cases shown : session.application with
    | none => decide
    | some text => exact facts.application text shown
  have key : session.jiraIssueKey.all validIssueKey = true ↔
      ∀ key, session.jiraIssueKey = some key → ProjectStarts key ∧ ProjectShort key := by
    rw [Option.all_eq_true]
    refine forall_congr' fun key => forall_congr' fun found => ?_
    obtain ⟨project, number, parts, characters, nonempty, digits⟩ := facts.key key found
    exact validIssueKey_iff parts characters nonempty digits
  have context : validText (session.activityEvidence.getD session.description) maxTextBytes = true ↔
      (session.activityEvidence = none → session.description.utf8ByteSize ≤ maxTextBytes) := by
    cases shown : session.activityEvidence with
    | none =>
      obtain ⟨c, first, visible⟩ := facts.description.visible
      simp only [Option.getD_none, validText_iff, true_imp_iff]
      exact ⟨fun valid => valid.2.1, fun fits => ⟨⟨c, mem_of_mem_head? first, visible⟩, fits,
        facts.description.noZero⟩⟩
    | some text => simp [facts.evidence text shown]
  have started := facts.started
  have ended := facts.ended
  have lasting := facts.lasting.ne'
  have counted := facts.counted.ne'
  simp only [validRow, ledgerRow, Bool.and_eq_true, identity, started, ended, lasting, counted, kind,
    application, context, key, decide_true, ne_eq, not_false_eq_true, true_and]
  exact and_comm

theorem map_id_sessionize (activities : List DerivedActivity) (afkIntervals : List (ℤ × ℤ))
    (rangeStart rangeEnd : ℤ) :
    (sessionize activities afkIntervals rangeStart rangeEnd).map SessionCandidate.id =
      (List.range (sessionize activities afkIntervals rangeStart rangeEnd).length).map sessionId := by
  apply ext_getElem
  · simp
  intro index inside other
  simp [sessionize]

theorem sessionId_injective : Function.Injective sessionId := by
  intro first second same
  have numbers := padded_injective 4 ((String.append_right_inj _).1 same)
  omega

theorem validIdentifier_sessionId {index : ℕ} (small : index < 1000) :
    validIdentifier (sessionId index) = true := by
  have short : (Nat.toDigits 10 (index + 1)).length ≤ 4 :=
    Nat.toDigits_length 10 (index + 1) 4 (by decide) (by omega)
  have text : sessionId index = String.ofList ("aw-".toList ++
      (List.replicate (4 - (Nat.toDigits 10 (index + 1)).length) '0' ++
        Nat.toDigits 10 (index + 1))) := by
    rw [String.ofList_append, String.ofList_toList]
    rfl
  rw [text]
  have bytes := utf8ByteSize_ofList_le ("aw-".toList ++
      (List.replicate (4 - (Nat.toDigits 10 (index + 1)).length) '0' ++
        Nat.toDigits 10 (index + 1)))
  simp only [length_append, length_replicate] at bytes
  have prefixLength : "aw-".toList.length = 3 := by
    decide
  simp only [validIdentifier, Bool.and_eq_true, decide_eq_true_eq, all_eq_true,
    String.toList_ofList]
  refine ⟨⟨?_, by omega⟩, ?_⟩
  · simp
  intro c member
  rcases mem_append.1 member with named | numbered
  · have letters : "aw-".toList.all isIdentifierCharacter = true := by
      decide
    exact all_eq_true.1 letters c named
  rcases mem_append.1 numbered with padding | digit
  · rw [eq_of_mem_replicate padding]
    decide
  have isDigit := Nat.isDigit_of_mem_toDigits (by decide) (by decide) digit
  simp [isIdentifierCharacter, isAsciiAlphanumeric, Char.isAlphanum, isDigit]

/-- What a review and issues need beyond what their readers promise. -/
structure Reviewable (review : DailyReview) (issues : List JiraActiveIssue) : Prop where
  few : review.sessions.length ≤ maxLedgerRows
  keys : ∀ session ∈ review.sessions, ∀ key, session.jiraIssueKey = some key →
    ProjectStarts key ∧ ProjectShort key
  descriptions : ∀ session ∈ review.sessions, session.activityEvidence = none →
    session.description.utf8ByteSize ≤ maxTextBytes
  issueKeys : ∀ issue ∈ issues, ProjectStarts issue.issueKey
  summaries : ∀ issue ∈ issues, issue.summary.utf8ByteSize ≤ maxSummaryBytes ∧
    '\x00' ∉ issue.summary.toList
  statuses : ∀ issue ∈ issues, '\x00' ∉ issue.status.toList

theorem validCandidate_iff {issues : List JiraActiveIssue} (extracted : Extracted issues)
    {issue : JiraActiveIssue} (member : issue ∈ issues) :
    validCandidate (jiraCandidate issue) = true ↔ ProjectStarts issue.issueKey ∧
        (issue.summary.utf8ByteSize ≤ maxSummaryBytes ∧ '\x00' ∉ issue.summary.toList) ∧
          '\x00' ∉ issue.status.toList := by
  obtain ⟨project, number, shape⟩ := extracted.keys issue member
  have short : ProjectShort issue.issueKey := by
    rw [ProjectShort, projectOf, shape.parts]
    exact shape.projectShort
  have summary := trim_ne_empty_iff.1 (extracted.summaries issue member).1
  have status := trim_ne_empty_iff.1 (extracted.statuses issue member).1
  have statusShort : issue.status.utf8ByteSize ≤ maxSummaryBytes :=
    (extracted.statuses issue member).2.trans (by decide)
  simp only [validCandidate, jiraCandidate, Bool.and_eq_true,
    validIssueKey_iff shape.parts shape.projectCharacters shape.numberNonempty shape.numberDigits,
    validText_iff, summary, status, statusShort, short, and_true, true_and, and_assoc]

/-- The brief of a review is valid exactly if the review and the issues are reviewable. -/
theorem fromDailyReview_valid_iff (content : Option Json) (issues : List JiraActiveIssue)
    (reviewId reviewDate : String) (generatedAtUnixMs : ℤ)
    (returned : dailyReview (.ok buckets) startedAtUnixMs endedAtUnixMs jiraIssues = .ok review)
    (extracted : extractActiveIssues content = .ok issues)
    (validId : validIdentifier reviewId = true) (validDay : validDate reviewDate = true)
    (positive : 0 < generatedAtUnixMs) :
    (fromDailyReview reviewId reviewDate generatedAtUnixMs review issues).validate = .ok () ↔
      Reviewable review issues := by
  obtain ⟨taken, fewIssues⟩ := extractActiveIssues_extracted extracted
  obtain ⟨reading, source⟩ := dailyReview_returned returned
  have ids : review.sessions.map SessionCandidate.id =
      (List.range review.sessions.length).map sessionId := by
    rw [source.sessions]
    exact map_id_sessionize _ _ _ _
  have identities : review.sessions.length ≤ maxLedgerRows →
      ∀ session ∈ review.sessions, validIdentifier session.id = true := by
    intro few session member
    have isId : session.id ∈ review.sessions.map SessionCandidate.id :=
      mem_map.2 ⟨session, member, rfl⟩
    rw [ids] at isId
    obtain ⟨index, inRange, same⟩ := mem_map.1 isId
    rw [← same]
    exact validIdentifier_sessionId ((mem_range.1 inRange).trans_le few)
  rw [validate_eq_ok_iff]
  constructor
  · intro valid
    have few : review.sessions.length ≤ maxLedgerRows := by
      have fewRows := valid.fewRows
      rwa [fromDailyReview, length_map] at fewRows
    have rows : ∀ session ∈ review.sessions, _ := fun session member =>
      (validRow_ledgerRow_iff (dailyReview_facts returned member) (identities few session member)).1
        (valid.rows _ (mem_map.2 ⟨session, member, rfl⟩))
    have candidates : ∀ issue ∈ issues, _ := fun issue member =>
      (validCandidate_iff taken member).1 (valid.candidates _ (mem_map.2 ⟨issue, member, rfl⟩))
    exact ⟨few, fun session member => (rows session member).1,
      fun session member => (rows session member).2, fun issue member => (candidates issue member).1,
      fun issue member => (candidates issue member).2.1,
      fun issue member => (candidates issue member).2.2⟩
  · intro reviewable
    refine ⟨rfl, validId, validDay, positive, ?_, ?_, ?_, ?_, ?_, ?_⟩
    · rw [fromDailyReview, length_map]
      exact reviewable.few
    · rw [fromDailyReview, length_map]
      exact fewIssues.trans (by decide)
    · intro row member
      obtain ⟨session, isSession, rfl⟩ := mem_map.1 member
      exact (validRow_ledgerRow_iff (dailyReview_facts returned isSession)
        (identities reviewable.few session isSession)).2
          ⟨reviewable.keys session isSession, reviewable.descriptions session isSession⟩
    · rw [fromDailyReview, map_map]
      change (review.sessions.map SessionCandidate.id).Nodup
      rw [ids]
      exact List.Nodup.map sessionId_injective nodup_range
    · intro candidate member
      obtain ⟨issue, isIssue, rfl⟩ := mem_map.1 member
      exact (validCandidate_iff taken isIssue).2 ⟨reviewable.issueKeys issue isIssue,
        reviewable.summaries issue isIssue, reviewable.statuses issue isIssue⟩
    · rw [fromDailyReview, map_map]
      exact taken.distinct

/-- A minute of reading makes a valid brief exactly if it is reviewable. -/
theorem fromDailyReview_valid_sample :
    ∃ review, dailyReview (.ok [minute {
        app := "Firefox"
        title := "Release notes"
        url := ""
        project := ""
        status := none }]) 0 60000 [] = .ok review ∧
      ((fromDailyReview "review-1" "2026-07-30" 1 review []).validate = .ok () ↔
        Reviewable review []) := by
  obtain ⟨review, _, returned, _⟩ := minute_review {
    app := "Firefox"
    title := "Release notes"
    url := ""
    project := ""
    status := none }
  exact ⟨review, returned, fromDailyReview_valid_iff (some (.array [])) [] "review-1" "2026-07-30" 1
    returned rfl (by decide) (by decide +kernel) (by decide)⟩

/-- A range of pages in a title is taken for an issue key, and the brief of the day is not valid. -/
theorem page_range_counterexample :
    ∃ review, dailyReview (.ok [minute {
        app := "Firefox"
        title := "pages 12-3"
        url := ""
        project := ""
        status := none }]) 0 60000 [] = .ok review ∧
      (fromDailyReview "review-1" "2026-07-30" 1 review []).validate ≠ .ok () := by
  obtain ⟨review, session, returned, sessions, carried⟩ := minute_review {
    app := "Firefox"
    title := "pages 12-3"
    url := ""
    project := ""
    status := none }
  refine ⟨review, returned, ?_⟩
  rw [ne_eq, validate_eq_ok_iff]
  intro valid
  have key : session.jiraIssueKey = some "12-3" := by
    rw [carried.texts.2.2]
    decide
  have row := valid.rows (ledgerRow session)
    (mem_map.2 ⟨session, sessions ▸ mem_cons_self, rfl⟩)
  have invalid : validIssueKey "12-3" = false := by
    decide
  simp [validRow, ledgerRow, key, invalid] at row

end Wts.TimeReviewBrief
