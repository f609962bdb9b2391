/-
Module: Wts.Proofs.ActivityEvidence
Purpose: What the texts of a daily review show.
Trusted boundary: none
Main exports: review_safe_iff
-/
import Wts.Proofs.ActivitySessions

namespace Wts.ActivityWatch

open List Text Words DerivedActivity

/-- A word of the text is private. -/
def ShowsPrivate (text : List Char) : Prop :=
  ∃ word ∈ words isWhitespace text, isPrivateToken word = true

@[simp] theorem isPrivateToken_nil : isPrivateToken [] = false := by
  decide

@[simp] theorem not_showsPrivate_nil : ¬ ShowsPrivate [] := by
  rintro ⟨word, member, _⟩
  rw [words_nil] at member
  cases member

variable {n : ℕ}

variable {chars : List Char}

theorem startsWithText_of_take {start : String}
    (found : startsWithText start (chars.take n) = true) : startsWithText start chars = true := by
  rw [startsWithText, isPrefixOf_iff_prefix] at found ⊢
  exact found.trans (List.take_prefix n chars)

theorem looksLikeWindowsPath_of_take
    (found : looksLikeWindowsPath (chars.take n) = true) : looksLikeWindowsPath chars = true := by
  match n, chars with
  | 0, _ => cases found
  | _, [] => simpa using found
  | 1, _ :: _ => simp [looksLikeWindowsPath] at found
  | 2, [_] => simp [looksLikeWindowsPath] at found
  | 2, _ :: _ :: _ => simp [looksLikeWindowsPath] at found
  | n + 3, [_] => simp [looksLikeWindowsPath] at found
  | n + 3, [_, _] => simp [looksLikeWindowsPath] at found
  | n + 3, _ :: _ :: _ :: _ => exact found

theorem isPrivateToken_of_take {word : List Char}
    (found : isPrivateToken (word.take n) = true) : isPrivateToken word = true := by
  simp only [isPrivateToken, looksLikeSecretAssignment, map_take, Bool.or_eq_true,
    any_eq_true, contains_eq_mem, decide_eq_true_eq] at found ⊢
  rcases found with (((((((at_ | http) | https) | www) | file) | absolute) | home) | drive) | secret
  · exact .inl (.inl (.inl (.inl (.inl (.inl (.inl (.inl (mem_of_mem_take at_))))))))
  · exact .inl (.inl (.inl (.inl (.inl (.inl (.inl (.inr (startsWithText_of_take http))))))))
  · exact .inl (.inl (.inl (.inl (.inl (.inl (.inr (startsWithText_of_take https)))))))
  · exact .inl (.inl (.inl (.inl (.inl (.inr (startsWithText_of_take www))))))
  · exact .inl (.inl (.inl (.inl (.inr (startsWithText_of_take file)))))
  · exact .inl (.inl (.inl (.inr (startsWithText_of_take absolute))))
  · exact .inl (.inl (.inr (startsWithText_of_take home)))
  · exact .inl (.inr (looksLikeWindowsPath_of_take drive))
  obtain ⟨start, isName, starts⟩ := secret
  exact .inr ⟨start, isName, startsWithText_of_take starts⟩

/-- Some kept token is private in the room that is left for it. -/
def Exposes (room : ℕ) (redactNext : Bool) : List (List Char) → Prop
  | [] => False
  | raw :: rest =>
    match scanToken redactNext raw with
    | (none, next) => Exposes room next rest
    | (some clean, next) =>
      isPrivateToken (clean.take room) = true ∨ Exposes (room - (clean.length + 1)) next rest

variable {redactNext next : Bool} {raw clean : List Char} {tokens : List (List Char)} {room : ℕ}

theorem scanToken_some (kept : scanToken redactNext raw = (some clean, next)) :
    isPrivateToken raw = false ∧ clean ≠ [] ∧
      clean = (trimMatches isSurrounding raw).filter fun c => !isControl c := by
  simp only [scanToken] at kept
  split at kept
  · cases kept
  rename_i isOpen
  split at kept
  · cases kept
  split at kept
  · cases kept
  split at kept
  · cases kept
  split at kept
  · cases kept
  split at kept
  · cases kept
  rename_i nonempty
  cases kept
  exact ⟨by simpa using isOpen, nonempty, rfl⟩

theorem mem_of_mem_trimMatches {strip : Char → Bool} {c : Char} {items : List Char}
    (member : c ∈ trimMatches strip items) : c ∈ items :=
  (dropWhile_suffix strip).subset ((List.rdropWhile_prefix strip _).subset member)

theorem keptTokens_plain (plain : Plain isWhitespace tokens) :
    Plain isWhitespace (keptTokens redactNext tokens) ∧
      ∀ word ∈ keptTokens redactNext tokens, ∀ c ∈ word, isControl c = false := by
  induction tokens generalizing redactNext with
  | nil => exact ⟨fun _ none => absurd none not_mem_nil, fun _ none => absurd none not_mem_nil⟩
  | cons raw rest ih =>
    rw [keptTokens]
    rcases scanned : scanToken redactNext raw with ⟨kept, next⟩
    obtain ⟨plainRest, noControl⟩ := @ih next plain.tail
    cases kept with
    | none => exact ⟨plainRest, noControl⟩
    | some clean =>
      obtain ⟨_, nonempty, isClean⟩ := scanToken_some scanned
      have characters : ∀ c ∈ clean, isWhitespace c = false ∧ isControl c = false := by
        intro c member
        rw [isClean, mem_filter, Bool.not_eq_true'] at member
        exact ⟨(plain raw mem_cons_self).2 c (mem_of_mem_trimMatches member.1), member.2⟩
      simp only [Option.toList_some, singleton_append]
      refine ⟨?_, ?_⟩
      · intro word member
        rcases mem_cons.1 member with rfl | later
        · exact ⟨nonempty, fun c inside => (characters c inside).1⟩
        exact plainRest word later
      intro word member
      rcases mem_cons.1 member with rfl | later
      · exact fun c inside => (characters c inside).2
      exact noControl word later

theorem splitWhitespace_plain (value : String) : Plain isWhitespace (splitWhitespace value) := by
  intro word member
  obtain ⟨nonempty, characters⟩ := mem_words member
  exact ⟨nonempty, fun c inside => (characters c inside).2⟩

/-- What is kept of a token without leading punctuation and without control characters begins it. -/
theorem clean_prefix (leading : raw.head?.any isSurrounding = false)
    (noControl : ∀ c ∈ raw, isControl c = false) :
    (trimMatches isSurrounding raw).filter (fun c => !isControl c) <+: raw := by
  have kept : (trimMatches isSurrounding raw).filter (fun c => !isControl c) =
      trimMatches isSurrounding raw := by
    rw [filter_eq_self]
    intro c member
    rw [noControl c (mem_of_mem_trimMatches member)]
    rfl
  have start : raw.dropWhile isSurrounding = raw := by
    cases raw with
    | nil => rfl
    | cons c rest => exact dropWhile_cons_of_neg (Bool.eq_false_iff.1 leading)
  rw [kept, trimMatches, start]
  exact List.rdropWhile_prefix isSurrounding raw

/-- Only a token with punctuation in front or a control character in it is exposed. -/
theorem exists_of_exposes (exposes : Exposes room redactNext tokens) :
    ∃ raw ∈ tokens, isPrivateToken raw = false ∧
      (raw.head?.any isSurrounding = true ∨ ∃ c ∈ raw, isControl c = true) := by
  induction tokens generalizing room redactNext with
  | nil => exact exposes.elim
  | cons raw rest ih =>
    rw [Exposes] at exposes
    split at exposes
    · obtain ⟨other, member, found⟩ := ih exposes
      exact ⟨other, mem_cons_of_mem raw member, found⟩
    rename_i clean _ scanned
    rcases exposes with isPrivate | inRest
    · obtain ⟨isOpen, _, isClean⟩ := scanToken_some scanned
      refine ⟨raw, mem_cons_self, isOpen, ?_⟩
      by_contra neither
      rw [not_or, Bool.not_eq_true, not_exists] at neither
      have begins := clean_prefix neither.1 fun c member =>
        Bool.not_eq_true _ ▸ fun isControl => neither.2 c ⟨member, isControl⟩
      rw [← isClean, prefix_iff_eq_take] at begins
      have whole := isPrivateToken_of_take isPrivate
      rw [begins] at whole
      rw [isPrivateToken_of_take whole] at isOpen
      cases isOpen
    · obtain ⟨other, member, found⟩ := ih inRest
      exact ⟨other, mem_cons_of_mem raw member, found⟩

theorem not_exposes_zero : ¬ Exposes 0 redactNext tokens := by
  induction tokens generalizing redactNext with
  | nil => exact id
  | cons raw rest ih =>
    rw [Exposes]
    split
    · exact ih
    rw [take_zero, isPrivateToken_nil, Nat.zero_sub]
    rintro (isPrivate | later)
    · cases isPrivate
    exact ih later

theorem Exposes.mono {more : ℕ} (le : room ≤ more) (exposes : Exposes room redactNext tokens) :
    Exposes more redactNext tokens := by
  induction tokens generalizing room more redactNext with
  | nil => exact exposes
  | cons raw rest ih =>
    rw [Exposes] at exposes ⊢
    split at exposes
    · exact ih le exposes
    rename_i clean next _
    rcases exposes with isPrivate | later
    · refine .inl (isPrivateToken_of_take (n := room) ?_)
      rwa [take_take, Nat.min_eq_left le]
    exact .inr (ih (Nat.sub_le_sub_right le _) later)

theorem exposes_iff :
    (∃ word ∈ cutWords room (keptTokens redactNext tokens), isPrivateToken word = true) ↔
      Exposes room redactNext tokens := by
  induction tokens generalizing room redactNext with
  | nil => simp [keptTokens, cutWords, Exposes]
  | cons raw rest ih =>
    rw [keptTokens, Exposes]
    rcases scanned : scanToken redactNext raw with ⟨kept, next⟩
    cases kept with
    | none => exact ih
    | some clean =>
      simp only [Option.toList_some, singleton_append]
      cases room with
      | zero =>
        rw [take_zero, isPrivateToken_nil, Nat.zero_sub]
        simp [cutWords, not_exposes_zero]
      | succ room =>
        rw [cutWords, Nat.add_sub_add_right, ← ih]
        simp

theorem sanitizeEvidence_take (value : String) {maximum : ℕ} (small : room ≤ maximum) :
    ShowsPrivate ((sanitizeEvidence value maximum).take room) ↔
      Exposes room false (splitWhitespace value) := by
  rw [sanitizeEvidence, truncateCharacters, take_take, Nat.min_eq_left small, ShowsPrivate,
    words_take_join (by decide) (keptTokens_plain (splitWhitespace_plain value)).1, exposes_iff]

theorem length_sanitizeEvidence (value : String) (maximum : ℕ) :
    (sanitizeEvidence value maximum).length ≤ maximum :=
  length_take_le _ _

theorem sanitizeEvidence_shows (value : String) (maximum : ℕ) :
    ShowsPrivate (sanitizeEvidence value maximum) ↔
      Exposes maximum false (splitWhitespace value) := by
  rw [← sanitizeEvidence_take value le_rfl, take_of_length_le (length_sanitizeEvidence _ _)]

/-! ### Shown texts -/

def projectRoom (title : String) : ℕ :=
  let shown := sanitizeEvidence title maxContextEvidenceCharacters
  if shown = [] then maxContextEvidenceCharacters
  else maxContextEvidenceCharacters - (shown.length + 3)

theorem evidenceParts_eq (title project : String) :
    evidenceParts title project =
      let first := sanitizeEvidence title maxContextEvidenceCharacters
      let second := sanitizeEvidence project maxContextEvidenceCharacters
      if first = [] then (if second = [] then [] else [second])
      else if second = [] ∨ second = first then [first] else [first, second] := by
  simp only [evidenceParts, foldl_cons, foldl_nil, not_mem_nil, not_false_eq_true,
    and_true, nil_append, ne_eq]
  by_cases noFirst : sanitizeEvidence title maxContextEvidenceCharacters = []
  · by_cases noSecond : sanitizeEvidence project maxContextEvidenceCharacters = []
    · simp [noFirst, noSecond]
    · simp [noFirst, noSecond]
  by_cases noSecond : sanitizeEvidence project maxContextEvidenceCharacters = []
  · simp [noFirst, noSecond]
  by_cases same : sanitizeEvidence project maxContextEvidenceCharacters =
    sanitizeEvidence title maxContextEvidenceCharacters
  · simp [noFirst, same]
  simp [noFirst, noSecond, same]

theorem showsPrivate_of_nonempty (chars : List Char) :
    (∃ text, (if chars = [] then none else some (String.ofList chars)) = some text ∧
      ShowsPrivate text.toList) ↔ ShowsPrivate chars := by
  by_cases empty : chars = []
  · simp [empty]
  simp [empty]

theorem showsPrivate_join {first second : List Char} (fits : first.length ≤ room) :
    ShowsPrivate ((join " · ".toList [first, second]).take room) ↔
      ShowsPrivate first ∨ ShowsPrivate (second.take (room - (first.length + 3))) := by
  have text : join " · ".toList [first, second] = first ++ ' ' :: (['·'] ++ ' ' :: second) := by
    simp [join, List.intercalate]
  have dot : words isWhitespace ['·'] = [['·']] := by
    decide
  rw [text, ShowsPrivate, words_take_append_cons (by decide) fits]
  simp only [mem_append, or_and_right, exists_or]
  refine or_congr Iff.rfl ?_
  rcases Nat.lt_or_ge (room - first.length - 1) 1 with none | some
  · have noRoom : room - (first.length + 3) = 0 := by omega
    rw [show room - first.length - 1 = 0 by omega, noRoom, take_zero, take_zero]
    exact Iff.rfl
  rw [words_take_append_cons (by decide) some, dot,
    show room - first.length - 1 - ['·'].length - 1 = room - (first.length + 3) by
      simp only [length_singleton]; omega]
  simp only [mem_append, mem_singleton, or_and_right, exists_or, exists_eq_left]
  exact or_iff_right (by decide)

theorem sanitizeContextEvidence_shows (title project : String) :
    (∃ text, sanitizeContextEvidence title project = some text ∧ ShowsPrivate text.toList) ↔
      Exposes maxContextEvidenceCharacters false (splitWhitespace title) ∨
        Exposes (projectRoom title) false (splitWhitespace project) := by
  have shown : (∃ text, sanitizeContextEvidence title project = some text ∧
      ShowsPrivate text.toList) ↔
        ShowsPrivate ((join " · ".toList (evidenceParts title project)).take
          maxContextEvidenceCharacters) := by
    rw [sanitizeContextEvidence, ← truncateCharacters]
    exact showsPrivate_of_nonempty _
  have single : ∀ text : List Char, join " · ".toList [text] = text := by
    intro text
    simp [join]
  rw [shown, evidenceParts_eq, ← sanitizeEvidence_shows title, projectRoom]
  have fitsFirst := length_sanitizeEvidence title maxContextEvidenceCharacters
  have fitsSecond := length_sanitizeEvidence project maxContextEvidenceCharacters
  have ofProject : ∀ room, room ≤ maxContextEvidenceCharacters →
      (ShowsPrivate ((sanitizeEvidence project maxContextEvidenceCharacters).take room) ↔
        Exposes room false (splitWhitespace project)) :=
    fun room => sanitizeEvidence_take project
  generalize sanitizeEvidence title maxContextEvidenceCharacters = first at *
  generalize sanitizeEvidence project maxContextEvidenceCharacters = second at *
  by_cases noFirst : first = []
  · simp only [noFirst, if_true, not_showsPrivate_nil, false_or]
    rw [← ofProject _ le_rfl]
    split
    · rename_i noSecond
      simp [noSecond, join]
    rw [single]
  rw [if_neg noFirst, if_neg noFirst, ← ofProject _ (Nat.sub_le _ _)]
  split
  · rename_i covered
    rw [single, take_of_length_le fitsFirst]
    refine (or_iff_left_of_imp ?_).symm
    rcases covered with noSecond | same
    · simp [noSecond]
    rw [ofProject _ (Nat.sub_le _ _), ← same]
    intro exposes
    rw [← take_of_length_le fitsSecond, ofProject _ le_rfl]
    exact exposes.mono (Nat.sub_le _ _)
  exact showsPrivate_join fitsFirst

theorem labels_safe : (∀ entry ∈ canonicalApplications, ¬ ShowsPrivate entry.2.toList) ∧
      ∀ kind, ∀ label ∈ kindApplication kind, ¬ ShowsPrivate label.toList := by
  have decided : ∀ text : String, (words isWhitespace text.toList).all (fun word =>
      !isPrivateToken word) = true → ¬ ShowsPrivate text.toList := by
    rintro text safe ⟨word, member, isPrivate⟩
    have isOpen := all_eq_true.1 safe word member
    rw [isPrivate] at isOpen
    cases isOpen
  refine ⟨?_, ?_⟩
  · intro entry member
    refine decided _ ?_
    revert member
    revert entry
    decide +kernel
  intro kind label isLabel
  refine decided _ ?_
  cases kind <;> cases isLabel <;> decide +kernel

theorem sanitizeApplication_shows (value : String) (kind : SessionKind) :
    (∃ text, sanitizeApplication value kind = some text ∧ ShowsPrivate text.toList) ↔
      canonicalApplication value = none ∧
        Exposes maxApplicationEvidenceCharacters false (splitWhitespace value) := by
  rw [← sanitizeEvidence_shows]
  rcases known : canonicalApplication value with _ | label
  · simp only [sanitizeApplication, known, true_and]
    by_cases empty : sanitizeEvidence value maxApplicationEvidenceCharacters = []
    · rw [if_pos empty, empty]
      simp only [not_showsPrivate_nil, iff_false, not_exists, not_and]
      exact fun text isLabel => labels_safe.2 kind text isLabel
    rw [if_neg empty]
    simp
  simp only [sanitizeApplication, known, reduceCtorEq, false_and, iff_false, not_exists, not_and]
  intro text same
  rw [← Option.some.inj same]
  rw [canonicalApplication, Option.map_eq_some_iff] at known
  obtain ⟨entry, found, rfl⟩ := known
  exact labels_safe.1 entry (mem_of_find?_eq_some found)

/-- A session shows one activity, has the issue of one, and counts something. -/
structure Carried (activities : List DerivedActivity) (session : SessionCandidate) : Prop where
  shown : ∃ activity ∈ activities, session.kind = activity.kind ∧
    session.description = activity.description ∧ session.application = activity.application ∧
      session.activityEvidence = activity.activityEvidence
  issue : ∃ activity ∈ activities, session.jiraIssueKey = activity.jiraIssueKey
  counted : 0 < session.sourceEventCount

variable {activities : List DerivedActivity} {afkIntervals : List (ℤ × ℤ)} {rangeStart rangeEnd : ℤ}
variable {runs blocks : List SessionCandidate}

theorem sessionRuns_carried :
    ∀ run ∈ sessionRuns activities afkIntervals rangeStart rangeEnd, Carried activities run := by
  refine sessionRuns_all ?_ ?_
  · intro slice isActivity
    exact ⟨⟨slice.key, isActivity, rfl, rfl, rfl, rfl⟩, ⟨slice.key, isActivity, rfl⟩, Nat.one_pos⟩
  intro previous stop carried
  exact ⟨carried.shown, carried.issue, Nat.succ_pos _⟩

variable {block : SessionCandidate} {part : List SessionCandidate}

theorem Block.carried
    (isBlock : Block part block) (carried : ∀ run ∈ part, Carried activities run) :
    Carried activities block := by
  induction isBlock with
  | run session => exact carried session mem_cons_self
  | absorbed _ _ _ _ _ _ _ ihPrevious _ _ =>
    have first := ihPrevious fun run member =>
      carried run (mem_append_left _ (mem_append_left _ member))
    exact ⟨first.shown, first.issue, Nat.add_pos_left (Nat.add_pos_left first.counted _) _⟩

theorem Block.lasting (isBlock : Block part block) (timed : ∀ run ∈ part, Timed run)
    (lasting : ∀ run ∈ part, 0 < run.durationSeconds) : 0 < block.durationSeconds := by
  have spans := isBlock.spans timed
  obtain ⟨run, member, _⟩ := spans.starts
  have atMost : run.extent ≤ (part.map SessionCandidate.extent).sum := by
    refine single_le_sum ?_ _ (mem_map.2 ⟨run, member, rfl⟩)
    intro extent isExtent
    obtain ⟨other, isOther, rfl⟩ := mem_map.1 isExtent
    exact (Int.sub_pos.2 (timed other isOther).nonempty).le
  rw [spans.extent] at atMost
  have ofRun := (timed run member).bounds
  have ofBlock := spans.timed.bounds
  have second := lasting run member
  omega

theorem Blocks.all {P Q : SessionCandidate → Prop} (isBlocks : Blocks runs blocks)
    (step : ∀ part block, Block part block → (∀ run ∈ part, P run) → Q block)
    (all : ∀ run ∈ runs, P run) : ∀ block ∈ blocks, Q block := by
  induction isBlocks with
  | nil => exact fun _ none => absurd none not_mem_nil
  | cons first _ ih =>
    intro other member
    rcases mem_cons.1 member with rfl | later
    · exact step _ _ first fun run member => all run (mem_append_left _ member)
    exact ih (fun run member => all run (mem_append_right _ member)) other later

variable {session : SessionCandidate}

theorem Joins.carried {chunk : SessionCandidate × List SessionCandidate}
    (joins : Joins chunk session) (carried : ∀ block ∈ chunkSessions chunk, Carried activities block)
    (lasting : ∀ block ∈ chunkSessions chunk, 0 < block.durationSeconds) :
    Carried activities session ∧ 0 < session.durationSeconds := by
  obtain ⟨longest, found⟩ : ∃ longest, maxByKey SessionCandidate.durationSeconds
      (chunk.1 :: chunk.2) = some longest :=
    Option.ne_none_iff_exists'.1 fun none => cons_ne_nil _ _ (maxByKey_eq_none_iff.1 none)
  have shown := (carried longest (mem_of_maxByKey found)).shown
  have first := carried chunk.1 mem_cons_self
  have lasts := lasting chunk.1 mem_cons_self
  rw [joins]
  refine ⟨⟨?_, first.issue, ?_⟩, ?_⟩
  · simp only [aggregateSessionChunk, found, Option.getD_some]
    exact shown
  · simp only [aggregateSessionChunk, map_cons, sum_cons]
    exact Nat.add_pos_left first.counted _
  simp only [aggregateSessionChunk, map_cons, sum_cons]
  exact Nat.add_pos_left lasts _

theorem sessionize_carried : ∀ session ∈ sessionize activities afkIntervals rangeStart rangeEnd,
      Carried activities session ∧ 0 < session.durationSeconds := by
  let retained := (sessionRuns activities afkIntervals rangeStart rangeEnd).filter
    fun session => 0 < session.durationSeconds
  have ofRun : ∀ run ∈ retained, Timed run ∧ Carried activities run ∧ 0 < run.durationSeconds := by
    intro run member
    obtain ⟨isRun, lasting⟩ := mem_filter.1 member
    exact ⟨sessionRuns_timed run isRun, sessionRuns_carried run isRun, of_decide_eq_true lasting⟩
  have ofBlock : ∀ block ∈ collapseTransientInterruptions retained,
      Carried activities block ∧ 0 < block.durationSeconds := by
    refine collapse_blocks.all ?_ ofRun
    intro part block isBlock all
    exact ⟨isBlock.carried fun run member => (all run member).2.1,
      isBlock.lasting (fun run member => (all run member).1) fun run member => (all run member).2.2⟩
  have flat := (reviewChunks_spec (collapseTransientInterruptions retained)).2
  intro session member
  obtain ⟨index, inside, rfl⟩ := mem_iff_getElem.1 member
  have joins := sessionize_eq_map (reviewChunks (collapseTransientInterruptions retained))
  rw [forall₂_iff_get] at joins
  have join := joins.2 index (joins.1 ▸ inside) inside
  have blocks : ∀ block ∈ chunkSessions ((reviewChunks (collapseTransientInterruptions retained)).get
      ⟨index, joins.1 ▸ inside⟩), block ∈ collapseTransientInterruptions retained := by
    intro block isBlock
    rw [← flat]
    exact mem_flatMap.2 ⟨_, get_mem _ _, isBlock⟩
  exact join.carried (fun block isBlock => (ofBlock block (blocks block isBlock)).1)
    fun block isBlock => (ofBlock block (blocks block isBlock)).2

/-! ### The review -/

variable {buckets : List ActivityBucket} {jiraIssues : List JiraActiveIssue}
variable {startedAtUnixMs endedAtUnixMs : ℤ} {review : DailyReview}

/-- The activity is what an event of the buckets contributes. -/
def FromEvents (buckets : List ActivityBucket) (jiraIssues : List JiraActiveIssue)
    (activity : DerivedActivity) : Prop :=
  ∃ bucket ∈ buckets, ∃ events, bucket.events = .ok events ∧ ∃ event ∈ events,
    ∃ source start stop, activity = DerivedActivity.fromEvent source start stop event.data jiraIssues

variable {activity : DerivedActivity} {reading : Reading}

theorem readEvent_activities {source : ActivitySource} {event : ActivityEvent}
    (member : activity ∈ (readEvent source jiraIssues reading event).activities) :
    activity ∈ reading.activities ∨ ∃ start stop,
      activity = fromEvent source start stop event.data jiraIssues := by
  simp only [readEvent] at member
  split at member
  · exact .inl member
  split at member
  · split at member
    · exact .inl member
    · exact .inl member
  rcases mem_append.1 member with old | new
  · exact .inl old
  exact .inr ⟨_, _, mem_singleton.1 new⟩

theorem readBucket_activities {result : Reading} {bucket : ActivityBucket}
    (inside : bucket ∈ buckets) (old : ∀ activity ∈ reading.activities,
      FromEvents buckets jiraIssues activity)
    (read : readBucket jiraIssues reading bucket = .ok result) :
    ∀ activity ∈ result.activities, FromEvents buckets jiraIssues activity := by
  simp only [readBucket] at read
  split at read
  · cases read
    exact old
  rename_i source _
  rcases answered : bucket.events with error | events
  · rw [answered] at read
    cases read
  rw [answered] at read
  simp only [bind, Except.bind] at read
  split at read
  · cases read
  cases read
  have fold : ∀ (rest : List ActivityEvent) (reading : Reading), (∀ event ∈ rest, event ∈ events) →
      (∀ activity ∈ reading.activities, FromEvents buckets jiraIssues activity) →
        ∀ activity ∈ (rest.foldl (readEvent source jiraIssues) reading).activities,
          FromEvents buckets jiraIssues activity := by
    intro rest
    induction rest with
    | nil => exact fun _ _ old => old
    | cons event rest ih =>
      intro reading part old
      refine ih _ (fun other member => part other (mem_cons_of_mem _ member)) ?_
      intro activity member
      rcases readEvent_activities member with before | ⟨start, stop, new⟩
      · exact old activity before
      exact ⟨bucket, inside, events, answered, event, part event mem_cons_self, source,
        start, stop, new⟩
  exact fold events _ (fun _ member => member) old

theorem readBuckets_activities (read : readBuckets jiraIssues buckets = .ok reading) :
    ∀ activity ∈ reading.activities, FromEvents buckets jiraIssues activity := by
  have fold : ∀ (rest : List ActivityBucket) (before result : Reading),
      (∀ bucket ∈ rest, bucket ∈ buckets) →
        (∀ activity ∈ before.activities, FromEvents buckets jiraIssues activity) →
          rest.foldlM (readBucket jiraIssues) before = .ok result →
            ∀ activity ∈ result.activities, FromEvents buckets jiraIssues activity := by
    intro rest
    induction rest with
    | nil =>
      intro before result _ old read
      cases read
      exact old
    | cons bucket rest ih =>
      intro before result part old read
      rw [foldlM_cons] at read
      rcases first : readBucket jiraIssues before bucket with error | middle
      · rw [first] at read
        cases read
      rw [first] at read
      exact ih middle result (fun other member => part other (mem_cons_of_mem _ member))
        (readBucket_activities (part bucket mem_cons_self) old first) read
  refine fold _ _ _ ?_ (fun _ none => absurd none not_mem_nil) read
  exact fun bucket member => (mem_insertionSort _).1 member

/-- What is checked before a review is returned, and where its sessions come from. -/
structure Returned (buckets : List ActivityBucket) (startedAtUnixMs endedAtUnixMs : ℤ)
    (jiraIssues : List JiraActiveIssue) (review : DailyReview) (reading : Reading) : Prop where
  started : 0 ≤ startedAtUnixMs
  ended : startedAtUnixMs < endedAtUnixMs
  read : readBuckets jiraIssues buckets = .ok reading
  sessions : review.sessions =
    sessionize reading.activities reading.afkIntervals startedAtUnixMs endedAtUnixMs

theorem dailyReview_returned (returned :
    dailyReview (.ok buckets) startedAtUnixMs endedAtUnixMs jiraIssues = .ok review) :
    ∃ reading, Returned buckets startedAtUnixMs endedAtUnixMs jiraIssues review reading := by
  rw [dailyReview] at returned
  split at returned
  · cases returned
  rename_i valid
  simp only [not_or, not_lt, not_le] at valid
  simp only [bind, Except.bind] at returned
  split at returned
  · cases returned
  rcases read : readBuckets jiraIssues buckets with error | reading
  · rw [read] at returned
    cases returned
  rw [read] at returned
  cases returned
  exact ⟨reading, valid.1, valid.2.1, read, rfl⟩

theorem dailyReview_carried (returned :
    dailyReview (.ok buckets) startedAtUnixMs endedAtUnixMs jiraIssues = .ok review)
    (member : session ∈ review.sessions) :
    ∃ activity, FromEvents buckets jiraIssues activity ∧ session.application = activity.application ∧
      session.activityEvidence = activity.activityEvidence := by
  obtain ⟨reading, ret⟩ := dailyReview_returned returned
  rw [ret.sessions] at member
  obtain ⟨activity, isActivity, _, _, application, evidence⟩ := (sessionize_carried session member).1.shown
  exact ⟨activity, readBuckets_activities ret.read activity isActivity, application, evidence⟩

/-- No token of the application and evidence texts is private. -/
def SafeTexts (application activityEvidence : Option String) : Prop :=
  ∀ text ∈ application.toList ++ activityEvidence.toList, ∀ token ∈ splitWhitespace text,
    isPrivateToken token = false

/-- Nothing private stands behind punctuation or control characters where it is shown. -/
def Hides (data : EventData) : Prop :=
  (canonicalApplication data.app = none →
    ¬ Exposes maxApplicationEvidenceCharacters false (splitWhitespace data.app)) ∧
  ¬ Exposes maxContextEvidenceCharacters false (splitWhitespace data.title) ∧
  ¬ Exposes (projectRoom data.title) false (splitWhitespace data.project)

theorem safeTexts_iff {application activityEvidence : Option String} :
    SafeTexts application activityEvidence ↔
      ¬ (∃ text, application = some text ∧ ShowsPrivate text.toList) ∧
        ¬ ∃ text, activityEvidence = some text ∧ ShowsPrivate text.toList := by
  have shows : ∀ text : String,
      (∀ token ∈ splitWhitespace text, isPrivateToken token = false) ↔ ¬ ShowsPrivate text.toList := by
    intro text
    simp [ShowsPrivate, splitWhitespace]
  simp only [SafeTexts, mem_append, Option.mem_toList, or_imp, forall_and, shows,
    not_exists, not_and]

theorem fromEvent_safe_iff (source : ActivitySource) (start stop : ℤ) (data : EventData)
    (jiraIssues : List JiraActiveIssue) :
    SafeTexts (fromEvent source start stop data jiraIssues).application
        (fromEvent source start stop data jiraIssues).activityEvidence ↔ Hides data := by
  rw [safeTexts_iff, Hides, fromEvent_application, fromEvent_activityEvidence,
    sanitizeApplication_shows, sanitizeContextEvidence_shows, not_or, not_and]

theorem dailyReview_safe
    (hide : ∀ bucket ∈ buckets, ∀ events, bucket.events = .ok events → ∀ event ∈ events,
      Hides event.data)
    (returned : dailyReview (.ok buckets) startedAtUnixMs endedAtUnixMs jiraIssues = .ok review)
    (member : session ∈ review.sessions) :
    SafeTexts session.application session.activityEvidence := by
  obtain ⟨activity, ⟨bucket, isBucket, events, answered, event, isEvent, source, start, stop, rfl⟩,
    application, evidence⟩ := dailyReview_carried returned member
  rw [application, evidence, fromEvent_safe_iff]
  exact hide bucket isBucket events answered event isEvent

def minute (data : EventData) : ActivityBucket where
  id := "aw-watcher-window"
  bucketType := "currentwindow"
  events := .ok [{ bounds := some (0, 60000), data := data }]

theorem sessionize_minute (start : activity.start = 0) (stop : activity.stop = 60000) :
    sessionize [activity] [] 0 60000 =
      [{ aggregateSessionChunk (newSession { key := activity, start := 0, stop := 60000 }) [] with
        id := sessionId 0 }] := by
  have points : sessionBoundaries [activity] [] 0 60000 = [0, 60000] := by
    rw [sessionBoundaries, flatMap_singleton, flatMap_nil, start, stop]
    decide
  have wins : winner [activity] [] 0 60000 = some activity := by
    simp [winner, start, stop, maxByKey]
  have slices : activitySlices [activity] [] 0 60000 =
      [{ key := activity, start := 0, stop := 60000 }] := by
    rw [activitySlices, points]
    simp [Sweep.label, Sweep.windows, wins]
  simp only [sessionize, sessionRuns, slices, foldl_cons, foldl_nil, pushSession, reverse_singleton]
  rw [filter_eq_self.2 (by simp [newSession, durationSeconds]), collapseTransientInterruptions,
    collapseFrom]
  · rfl
  exact fun _ _ _ _ several => by cases several

theorem minute_review (data : EventData) :
    ∃ review session, dailyReview (.ok [minute data]) 0 60000 [] = .ok review ∧
      review.sessions = [session] ∧ Carried [fromEvent .window 0 60000 data []] session := by
  have source : ActivitySource.fromBucketType "currentwindow" = some .window := by
    decide +kernel
  have read : readBuckets [] [minute data] = .ok {
      activities := [fromEvent .window 0 60000 data []]
      afkIntervals := []
      eventCount := 1 } := by
    simp only [readBuckets, insertionSort_cons, insertionSort_nil, List.orderedInsert,
      foldlM_cons, foldlM_nil, readBucket, minute, source]
    rfl
  have sessions := @sessionize_minute (fromEvent .window 0 60000 data []) rfl rfl
  refine ⟨_, _, by rw [dailyReview, if_neg (by decide)]; simp only [bind, Except.bind, read]; rfl,
    sessions, ?_⟩
  exact (sessionize_carried _ (sessions ▸ mem_cons_self)).1

theorem Carried.texts (carried : Carried [activity] session) :
    session.application = activity.application ∧
      session.activityEvidence = activity.activityEvidence ∧
        session.jiraIssueKey = activity.jiraIssueKey := by
  obtain ⟨shown, isShown, _, _, application, evidence⟩ := carried.shown
  obtain ⟨other, isOther, key⟩ := carried.issue
  rw [mem_singleton.1 isShown] at application evidence
  rw [mem_singleton.1 isOther] at key
  exact ⟨application, evidence, key⟩

/-- The texts that a review shows of events with the same texts are safe exactly if nothing private
stands behind punctuation or control characters in them. -/
theorem review_safe_iff (data : EventData) :
    (∀ (buckets : List ActivityBucket) (startedAtUnixMs endedAtUnixMs : ℤ)
      (jiraIssues : List JiraActiveIssue) (review : DailyReview),
      (∀ bucket ∈ buckets, ∀ events, bucket.events = .ok events → ∀ event ∈ events,
        event.data = data) →
      dailyReview (.ok buckets) startedAtUnixMs endedAtUnixMs jiraIssues = .ok review →
        ∀ session ∈ review.sessions, SafeTexts session.application session.activityEvidence) ↔
      Hides data := by
  constructor
  · intro safe
    obtain ⟨review, session, returned, sessions, carried⟩ := minute_review data
    obtain ⟨application, evidence, _⟩ := carried.texts
    rw [← fromEvent_safe_iff .window 0 60000 data [], ← application, ← evidence]
    refine safe [minute data] 0 60000 [] review ?_ returned session (sessions ▸ mem_cons_self)
    intro bucket isBucket events answered event isEvent
    rw [mem_singleton.1 isBucket] at answered
    cases answered
    rw [mem_singleton.1 isEvent]
  · intro hides buckets startedAtUnixMs endedAtUnixMs jiraIssues review same returned session member
    refine dailyReview_safe ?_ returned member
    intro bucket isBucket events answered event isEvent
    rw [same bucket isBucket events answered event isEvent]
    exact hides

/-- A link in parentheses passes the test with its parenthesis and is shown without it. -/
theorem link_in_parentheses_counterexample :
    ∃ review, dailyReview (.ok [minute {
        app := "Firefox"
        title := "(https://intranet/secret)"
        url := ""
        project := ""
        status := none }]) 0 60000 [] = .ok review ∧
      ∃ session ∈ review.sessions, session.activityEvidence = some "https://intranet/secret" ∧
        ¬ SafeTexts session.application session.activityEvidence := by
  obtain ⟨review, session, returned, sessions, carried⟩ := minute_review {
    app := "Firefox"
    title := "(https://intranet/secret)"
    url := ""
    project := ""
    status := none }
  have shown : session.activityEvidence = some "https://intranet/secret" := by
    rw [carried.texts.2.1]
    decide +kernel
  refine ⟨review, returned, session, sessions ▸ mem_cons_self, shown, ?_⟩
  intro safe
  have isOpen := safe "https://intranet/secret" (by simp [shown]) "https://intranet/secret".toList
    (by decide +kernel)
  revert isOpen
  decide +kernel

end Wts.ActivityWatch
