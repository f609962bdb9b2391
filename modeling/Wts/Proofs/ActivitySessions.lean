/-
Module: Wts.Proofs.ActivitySessions
Purpose: The sessions of a daily review against the recorded time.
Trusted boundary: none
Main exports: sessionize_exact
-/
import Wts.Integrations.ActivityWatch

namespace Wts.ActivityWatch

open List Sweep

variable {activities : List DerivedActivity} {afkIntervals : List (ℤ × ℤ)} {rangeStart rangeEnd : ℤ}

/-- Some activity and no time away covers the instant of the range. -/
def Active (activities : List DerivedActivity) (afkIntervals : List (ℤ × ℤ))
    (rangeStart rangeEnd t : ℤ) : Prop :=
  (rangeStart ≤ t ∧ t < rangeEnd) ∧ (∃ activity ∈ activities, activity.start ≤ t ∧ t < activity.stop) ∧
    ∀ interval ∈ afkIntervals, ¬(interval.1 ≤ t ∧ t < interval.2)

variable {t start stop : ℤ}

theorem clamp_le_iff {value : ℤ} (reached : rangeStart ≤ t) (before : t < rangeEnd) :
    clamp rangeStart rangeEnd value ≤ t ↔ value ≤ t := by
  unfold clamp
  omega

theorem lt_clamp_iff {value : ℤ} (reached : rangeStart ≤ t) (before : t < rangeEnd) :
    t < clamp rangeStart rangeEnd value ↔ t < value := by
  unfold clamp
  omega

theorem boundary_inside (range : rangeStart ≤ rangeEnd) {point : ℤ}
    (member : point ∈ sessionBoundaries activities afkIntervals rangeStart rangeEnd) :
    rangeStart ≤ point ∧ point ≤ rangeEnd := by
  have clamped : ∀ value, rangeStart ≤ clamp rangeStart rangeEnd value ∧
      clamp rangeStart rangeEnd value ≤ rangeEnd := by
    intro value
    unfold clamp
    omega
  simp only [sessionBoundaries, mem_boundaries, mem_append, mem_cons, mem_flatMap,
    not_mem_nil, or_false] at member
  rcases member with ((rfl | rfl) | ⟨activity, _, rfl | rfl⟩) | ⟨interval, _, rfl | rfl⟩
  · exact ⟨le_rfl, range⟩
  · exact ⟨range, le_rfl⟩
  · exact clamped _
  · exact clamped _
  · exact clamped _
  exact clamped _

theorem covers_window {sorted : List ℤ} {a b s : ℤ} (strict : sorted.Pairwise (· < ·))
    (window : (a, b) ∈ windows sorted) (isStart : clamp rangeStart rangeEnd start ∈ sorted)
    (isStop : clamp rangeStart rangeEnd stop ∈ sorted) (low : rangeStart ≤ a) (high : b ≤ rangeEnd)
    (inside : a ≤ s ∧ s < b) (inside' : a ≤ t ∧ t < b) :
    start ≤ s ∧ s < stop ↔ start ≤ t ∧ t < stop := by
  have first := covers_iff_of_window strict window isStart isStop inside.1 inside.2
  have second := covers_iff_of_window strict window isStart isStop inside'.1 inside'.2
  rw [clamp_le_iff (low.trans inside.1) (inside.2.trans_le high),
    lt_clamp_iff (low.trans inside.1) (inside.2.trans_le high)] at first
  rw [clamp_le_iff (low.trans inside'.1) (inside'.2.trans_le high),
    lt_clamp_iff (low.trans inside'.1) (inside'.2.trans_le high)] at second
  rw [first, second]

theorem midpoint_inside (less : start < stop) :
    start ≤ start + (stop - start) / 2 ∧ start + (stop - start) / 2 < stop := by
  omega

theorem winner_mem {activity : DerivedActivity}
    (found : winner activities afkIntervals start stop = some activity) : activity ∈ activities := by
  simp only [winner] at found
  split at found
  · cases found
  split at found
  · cases found
  exact (mem_filter.1 (Words.mem_of_maxByKey found)).1

theorem winner_isSome_iff (range : rangeStart ≤ rangeEnd) {a b : ℤ}
    (window : (a, b) ∈ windows (sessionBoundaries activities afkIntervals rangeStart rangeEnd))
    (inside : a ≤ t ∧ t < b) : (∃ activity, winner activities afkIntervals a b = some activity) ↔
      Active activities afkIntervals rangeStart rangeEnd t := by
  have strict : (sessionBoundaries activities afkIntervals rangeStart rangeEnd).Pairwise (· < ·) :=
    boundaries_sorted
  obtain ⟨isLow, isHigh, less, _⟩ := mem_windows strict window
  have low := (boundary_inside range isLow).1
  have high := (boundary_inside range isHigh).2
  have atMidpoint := midpoint_inside less
  have ofActivity : ∀ activity ∈ activities,
      (activity.start ≤ a + (b - a) / 2 ∧ a + (b - a) / 2 < activity.stop ↔
        activity.start ≤ t ∧ t < activity.stop) := by
    intro activity member
    refine covers_window strict window ?_ ?_ low high atMidpoint inside
    · rw [sessionBoundaries, mem_boundaries]
      exact mem_append_left _ (mem_append_right _ (mem_flatMap.2 ⟨activity, member, mem_cons_self⟩))
    rw [sessionBoundaries, mem_boundaries]
    exact mem_append_left _ (mem_append_right _
      (mem_flatMap.2 ⟨activity, member, mem_cons_of_mem _ mem_cons_self⟩))
  have ofInterval : ∀ interval ∈ afkIntervals,
      (interval.1 ≤ a + (b - a) / 2 ∧ a + (b - a) / 2 < interval.2 ↔
        interval.1 ≤ t ∧ t < interval.2) := by
    intro interval member
    refine covers_window strict window ?_ ?_ low high atMidpoint inside
    · rw [sessionBoundaries, mem_boundaries]
      exact mem_append_right _ (mem_flatMap.2 ⟨interval, member, mem_cons_self⟩)
    rw [sessionBoundaries, mem_boundaries]
    exact mem_append_right _ (mem_flatMap.2 ⟨interval, member, mem_cons_of_mem _ mem_cons_self⟩)
  simp only [winner, if_neg less.not_ge]
  split
  · rename_i away
    simp only [any_eq_true, Bool.and_eq_true, decide_eq_true_eq] at away
    obtain ⟨interval, member, covers⟩ := away
    simp only [reduceCtorEq, exists_false, false_iff]
    intro active
    exact active.2.2 interval member ((ofInterval interval member).1 covers)
  rename_i present
  simp only [any_eq_true, Bool.and_eq_true, decide_eq_true_eq, not_exists] at present
  rw [← Option.isSome_iff_exists, Option.isSome_iff_ne_none, ne_eq, Words.maxByKey_eq_none_iff,
    filter_eq_nil_iff]
  simp only [Bool.and_eq_true, decide_eq_true_eq, not_forall, not_not]
  constructor
  · rintro ⟨activity, member, covers⟩
    refine ⟨⟨low.trans inside.1, inside.2.trans_le high⟩,
      ⟨activity, member, (ofActivity activity member).1 covers⟩, ?_⟩
    intro interval isInterval covers
    exact present interval ⟨isInterval, (ofInterval interval isInterval).2 covers⟩
  rintro ⟨_, ⟨activity, member, covers⟩, _⟩
  exact ⟨activity, member, (ofActivity activity member).2 covers⟩

theorem covered_activitySlices (range : rangeStart ≤ rangeEnd) :
    covered (activitySlices activities afkIntervals rangeStart rangeEnd) =
      { t | Active activities afkIntervals rangeStart rangeEnd t } := by
  ext t
  constructor
  · rintro ⟨slice, member, covers⟩
    obtain ⟨window, found⟩ := mem_label.1 member
    exact (winner_isSome_iff range window covers).1 ⟨_, found⟩
  intro active
  have isStart : rangeStart ∈ sessionBoundaries activities afkIntervals rangeStart rangeEnd := by
    simp [sessionBoundaries]
  have isEnd : rangeEnd ∈ sessionBoundaries activities afkIntervals rangeStart rangeEnd := by
    simp [sessionBoundaries]
  obtain ⟨⟨a, b⟩, window, covers⟩ :=
    exists_window boundaries_sorted isStart isEnd active.1.1 active.1.2
  obtain ⟨activity, found⟩ := (winner_isSome_iff range window covers).2 active
  exact ⟨{ key := activity, start := a, stop := b }, mem_label.2 ⟨window, found⟩, covers⟩

/-- What a session says of its time. -/
structure Work where
  kind : SessionKind
  jiraIssueKey : Option String
  suggestedJiraIssueKey : Option String
  description : String
  application : Option String
  activityEvidence : Option String
deriving DecidableEq

def DerivedActivity.work (activity : DerivedActivity) : Work where
  kind := activity.kind
  jiraIssueKey := activity.jiraIssueKey
  suggestedJiraIssueKey := activity.suggestedJiraIssueKey
  description := activity.description
  application := activity.application
  activityEvidence := activity.activityEvidence

def SessionCandidate.work (session : SessionCandidate) : Work where
  kind := session.kind
  jiraIssueKey := session.jiraIssueKey
  suggestedJiraIssueKey := session.suggestedJiraIssueKey
  description := session.description
  application := session.application
  activityEvidence := session.activityEvidence

/-- The time of the session, with what it is work on. -/
def SessionCandidate.slice (session : SessionCandidate) : Slice ℤ Work where
  key := session.work
  start := session.startedAtUnixMs
  stop := session.endedAtUnixMs

def workSlice (slice : Slice ℤ DerivedActivity) : Slice ℤ Work where
  key := slice.key.work
  start := slice.start
  stop := slice.stop

theorem map_pushSession (sessions : List SessionCandidate) (slice : Slice ℤ DerivedActivity) :
    (pushSession sessions slice).map SessionCandidate.slice =
      push (sessions.map SessionCandidate.slice) (workSlice slice) := by
  cases sessions with
  | nil => rfl
  | cons previous earlier =>
    rw [map_cons, push_cons]
    simp only [pushSession]
    split
    · rename_i same
      rw [if_pos]
      · rfl
      obtain ⟨touches, kind, key, suggested, description, application, evidence⟩ := same
      refine ⟨?_, touches⟩
      simp only [SessionCandidate.slice, SessionCandidate.work, workSlice, DerivedActivity.work,
        kind, key, suggested, description, application, evidence]
    rename_i differs
    rw [if_neg]
    · rfl
    rintro ⟨same, touches⟩
    simp only [SessionCandidate.slice, SessionCandidate.work, workSlice, DerivedActivity.work,
      Work.mk.injEq] at same touches
    exact differs ⟨touches, same⟩

theorem map_sessionRuns :
    (sessionRuns activities afkIntervals rangeStart rangeEnd).map SessionCandidate.slice =
      merge ((activitySlices activities afkIntervals rangeStart rangeEnd).map workSlice) := by
  have fold : ∀ (slices : List (Slice ℤ DerivedActivity)) (sessions : List SessionCandidate),
      (slices.foldl pushSession sessions).map SessionCandidate.slice =
        (slices.map workSlice).foldl push (sessions.map SessionCandidate.slice) := by
    intro slices
    induction slices with
    | nil => exact fun _ => rfl
    | cons slice slices ih =>
      intro sessions
      rw [foldl_cons, ih, map_pushSession, map_cons, foldl_cons]
  rw [sessionRuns, map_reverse, fold]
  rfl

theorem workSlices_inOrder :
    InOrder ((activitySlices activities afkIntervals rangeStart rangeEnd).map workSlice) := by
  have inOrder : InOrder (activitySlices activities afkIntervals rangeStart rangeEnd) :=
    label_inOrder boundaries_sorted _
  refine ⟨?_, pairwise_map.2 inOrder.ordered⟩
  intro slice member
  obtain ⟨original, inside, rfl⟩ := mem_map.1 member
  exact inOrder.nonempty original inside

theorem runs_canonical : Canonical ((sessionRuns activities afkIntervals rangeStart rangeEnd).map
      SessionCandidate.slice) := by
  rw [map_sessionRuns]
  exact merge_canonical workSlices_inOrder

theorem covered_runs (range : rangeStart ≤ rangeEnd) :
    covered ((sessionRuns activities afkIntervals rangeStart rangeEnd).map SessionCandidate.slice) =
      { t | Active activities afkIntervals rangeStart rangeEnd t } := by
  rw [map_sessionRuns, covered_merge workSlices_inOrder, ← covered_activitySlices range]
  ext t
  simp [covered, Slice.Covers, workSlice]

/-- The duration of a session is its length in whole seconds. -/
structure Timed (session : SessionCandidate) : Prop where
  nonempty : session.startedAtUnixMs < session.endedAtUnixMs
  duration : session.durationSeconds =
    durationSeconds session.startedAtUnixMs session.endedAtUnixMs

/-- How long the session lasts. -/
def SessionCandidate.extent (session : SessionCandidate) : ℤ :=
  session.endedAtUnixMs - session.startedAtUnixMs

variable {session : SessionCandidate}

theorem Timed.bounds (timed : Timed session) :
    1000 * (session.durationSeconds : ℤ) ≤ session.extent ∧
      session.extent ≤ 1000 * session.durationSeconds + 999 := by
  have nonempty := timed.nonempty
  rw [timed.duration, durationSeconds, SessionCandidate.extent]
  omega

theorem sessionRuns_all {P : SessionCandidate → Prop}
    (fresh : ∀ slice, slice.key ∈ activities → P (newSession slice))
    (extended : ∀ previous stop, P previous → P { previous with
      endedAtUnixMs := stop
      durationSeconds := durationSeconds previous.startedAtUnixMs stop
      sourceEventCount := previous.sourceEventCount + 1 }) :
    ∀ session ∈ sessionRuns activities afkIntervals rangeStart rangeEnd, P session := by
  have pushed : ∀ slice : Slice ℤ DerivedActivity, slice.key ∈ activities →
      ∀ sessions : List SessionCandidate, (∀ session ∈ sessions, P session) →
        ∀ session ∈ pushSession sessions slice, P session := by
    intro slice isActivity sessions all session member
    cases sessions with
    | nil =>
      rw [mem_singleton.1 member]
      exact fresh slice isActivity
    | cons previous earlier =>
      simp only [pushSession] at member
      split at member
      · rcases mem_cons.1 member with rfl | old
        · exact extended previous slice.stop (all previous mem_cons_self)
        · exact all session (mem_cons_of_mem _ old)
      rcases mem_cons.1 member with rfl | old
      · exact fresh slice isActivity
      exact all session old
  have fold : ∀ (slices : List (Slice ℤ DerivedActivity)) (sessions : List SessionCandidate),
      (∀ slice ∈ slices, slice.key ∈ activities) → (∀ session ∈ sessions, P session) →
        ∀ session ∈ slices.foldl pushSession sessions, P session := by
    intro slices
    induction slices with
    | nil => exact fun _ _ all => all
    | cons slice slices ih =>
      intro sessions keys all
      exact ih _ (fun other member => keys other (mem_cons_of_mem _ member))
        (pushed slice (keys slice mem_cons_self) sessions all)
  intro session member
  refine fold _ _ ?_ (fun _ none => absurd none not_mem_nil) session (mem_reverse.1 member)
  exact fun slice inside => winner_mem (mem_label.1 inside).2

theorem sessionRuns_timed :
    ∀ session ∈ sessionRuns activities afkIntervals rangeStart rangeEnd, Timed session := by
  intro session member
  have nonempty := runs_canonical.nonempty session.slice (mem_map.2 ⟨session, member, rfl⟩)
  have duration : session.durationSeconds =
      durationSeconds session.startedAtUnixMs session.endedAtUnixMs :=
    sessionRuns_all
      (P := fun session => session.durationSeconds =
        durationSeconds session.startedAtUnixMs session.endedAtUnixMs)
      (fun _ _ => rfl) (fun _ _ _ => rfl) session member
  exact ⟨nonempty, duration⟩

/-- A block is a run, or a block with an interruption in it: a short block without Jira evidence that
touches blocks of equal work on both sides. -/
inductive Block : List SessionCandidate → SessionCandidate → Prop where
  | run (session : SessionCandidate) : Block [session] session
  | absorbed {before inner after : List SessionCandidate} {previous middle next : SessionCandidate}
      (isPrevious : Block before previous) (isMiddle : Block inner middle) (isNext : Block after next)
      (short : middle.durationSeconds < transientSessionSeconds)
      (noEvidence : middle.jiraIssueKey = none ∧ middle.suggestedJiraIssueKey = none)
      (touches : previous.endedAtUnixMs = middle.startedAtUnixMs ∧
        middle.endedAtUnixMs = next.startedAtUnixMs)
      (sameWork : previous.kind = next.kind ∧ previous.jiraIssueKey = next.jiraIssueKey ∧
        previous.suggestedJiraIssueKey = next.suggestedJiraIssueKey ∧
          previous.description = next.description) :
      Block (before ++ inner ++ after) (absorb previous middle next)

/-- A list of blocks, and the runs that they are made of in order. -/
inductive Blocks : List SessionCandidate → List SessionCandidate → Prop where
  | nil : Blocks [] []
  | cons {part runs blocks : List SessionCandidate} {block : SessionCandidate}
      (first : Block part block) (rest : Blocks runs blocks) : Blocks (part ++ runs) (block :: blocks)

variable {runs blocks : List SessionCandidate}

theorem Blocks.refl (runs : List SessionCandidate) : Blocks runs runs := by
  induction runs with
  | nil => exact .nil
  | cons session runs ih => exact .cons (.run session) ih

theorem Blocks.append {moreRuns moreBlocks : List SessionCandidate} (first : Blocks runs blocks)
    (second : Blocks moreRuns moreBlocks) : Blocks (runs ++ moreRuns) (blocks ++ moreBlocks) := by
  induction first with
  | nil => exact second
  | cons block _ ih =>
    rw [append_assoc]
    exact .cons block ih

theorem Blocks.split {first second : List SessionCandidate} (whole : Blocks runs (first ++ second)) :
    ∃ before after, runs = before ++ after ∧ Blocks before first ∧ Blocks after second := by
  induction first generalizing runs with
  | nil => exact ⟨[], runs, rfl, .nil, whole⟩
  | cons block rest ih =>
    cases whole with
    | cons isBlock others =>
      obtain ⟨before, after, rfl, isFirst, isSecond⟩ := ih others
      exact ⟨_, after, (append_assoc _ _ _).symm, .cons isBlock isFirst, isSecond⟩

theorem Blocks.absorb {previous middle next : SessionCandidate} {rest : List SessionCandidate}
    (whole : Blocks runs (previous :: middle :: next :: rest))
    (transient : isTransient previous middle next = true) :
    Blocks runs (absorb previous middle next :: rest) := by
  cases whole with
  | cons isPrevious others =>
    cases others with
    | cons isMiddle others =>
      cases others with
      | cons isNext others =>
        simp only [isTransient, sameSurroundingContext, hasJiraEvidence, Bool.and_eq_true,
          decide_eq_true_eq, Bool.not_eq_true', Bool.or_eq_false_iff,
          Option.isSome_eq_false_iff, Option.isNone_iff_eq_none] at transient
        obtain ⟨⟨⟨⟨short, noEvidence⟩, touchesPrevious⟩, touchesNext⟩,
          ⟨⟨kind, key⟩, suggested⟩, description⟩ := transient
        rw [← append_assoc, ← append_assoc]
        exact .cons (.absorbed isPrevious isMiddle isNext short noEvidence
          ⟨touchesPrevious, touchesNext⟩ ⟨kind, key, suggested, description⟩) others

theorem collapseFrom_blocks (before sessions : List SessionCandidate)
    (whole : Blocks runs (before.reverse ++ sessions)) : Blocks runs (collapseFrom before sessions) := by
  fun_induction collapseFrom before sessions with
  | case1 previous middle next rest transient ih => exact ih (whole.absorb transient)
  | case2 previous middle next rest transient last earlier ih =>
    apply ih
    obtain ⟨beforeRuns, afterRuns, rfl, isBefore, isAfter⟩ := whole.split
    have kept := isBefore.append (isAfter.absorb transient)
    rwa [reverse_cons, append_assoc] at kept
  | case3 before previous middle next rest _ ih =>
    apply ih
    rwa [reverse_cons, append_assoc]
  | case4 before sessions _ => exact whole

theorem collapse_blocks : Blocks runs (collapseTransientInterruptions runs) :=
  collapseFrom_blocks [] runs (Blocks.refl runs)

/-- A block starts and ends with runs of its own, is as long as they are together, and has the duration
of its length. -/
structure Spans (runs : List SessionCandidate) (block : SessionCandidate) : Prop where
  timed : Timed block
  starts : ∃ run ∈ runs, run.startedAtUnixMs = block.startedAtUnixMs
  ends : ∃ run ∈ runs, run.endedAtUnixMs = block.endedAtUnixMs
  extent : (runs.map SessionCandidate.extent).sum = block.extent

theorem Block.spans {part : List SessionCandidate} {block : SessionCandidate}
    (isBlock : Block part block) (timed : ∀ run ∈ part, Timed run) : Spans part block := by
  induction isBlock with
  | run session =>
    exact ⟨timed session mem_cons_self, ⟨session, mem_cons_self, rfl⟩,
      ⟨session, mem_cons_self, rfl⟩, by simp⟩
  | @absorbed before inner after previous middle next _ _ _ _ _ touches _ ihPrevious ihMiddle ihNext =>
    have first := ihPrevious fun run member =>
      timed run (mem_append_left _ (mem_append_left _ member))
    have second := ihMiddle fun run member =>
      timed run (mem_append_left _ (mem_append_right _ member))
    have third := ihNext fun run member => timed run (mem_append_right _ member)
    refine ⟨⟨?_, rfl⟩, ?_, ?_, ?_⟩
    · have one := first.timed.nonempty
      have two := second.timed.nonempty
      have three := third.timed.nonempty
      simp only [absorb]
      omega
    · obtain ⟨run, member, same⟩ := first.starts
      exact ⟨run, mem_append_left _ (mem_append_left _ member), same⟩
    · obtain ⟨run, member, same⟩ := third.ends
      exact ⟨run, mem_append_right _ member, same⟩
    rw [map_append, map_append, sum_append, sum_append, first.extent, second.extent, third.extent]
    simp only [SessionCandidate.extent, absorb]
    omega

/-- Sessions in order of time. -/
def Ordered (sessions : List SessionCandidate) : Prop :=
  sessions.Pairwise fun first second => first.endedAtUnixMs ≤ second.startedAtUnixMs

/-- What blocks keep of their runs. -/
structure Keeps (runs blocks : List SessionCandidate) : Prop where
  timed : ∀ block ∈ blocks, Timed block
  ordered : Ordered blocks
  within : ∀ block ∈ blocks, (∃ run ∈ runs, run.startedAtUnixMs = block.startedAtUnixMs) ∧
    ∃ run ∈ runs, run.endedAtUnixMs = block.endedAtUnixMs
  extent : (blocks.map SessionCandidate.extent).sum = (runs.map SessionCandidate.extent).sum
  fewer : blocks.length ≤ runs.length

theorem Blocks.keeps (isBlocks : Blocks runs blocks) (timed : ∀ run ∈ runs, Timed run)
    (ordered : Ordered runs) : Keeps runs blocks := by
  induction isBlocks with
  | nil =>
    exact ⟨fun _ member => absurd member not_mem_nil, List.Pairwise.nil,
      fun _ member => absurd member not_mem_nil, rfl, le_rfl⟩
  | @cons part runs blocks block first rest ih =>
    obtain ⟨_, orderedRest, across⟩ := pairwise_append.1 ordered
    have spans := first.spans fun run member => timed run (mem_append_left _ member)
    have others := ih (fun run member => timed run (mem_append_right _ member)) orderedRest
    refine ⟨?_, ?_, ?_, ?_, ?_⟩
    · intro other member
      rcases mem_cons.1 member with rfl | later
      · exact spans.timed
      exact others.timed other later
    · refine pairwise_cons.2 ⟨?_, others.ordered⟩
      intro other later
      obtain ⟨last, isLast, ended⟩ := spans.ends
      obtain ⟨⟨run, isRun, started⟩, _⟩ := others.within other later
      rw [← ended, ← started]
      exact across last isLast run isRun
    · intro other member
      rcases mem_cons.1 member with rfl | later
      · obtain ⟨start, isStart, started⟩ := spans.starts
        obtain ⟨last, isLast, ended⟩ := spans.ends
        exact ⟨⟨start, mem_append_left _ isStart, started⟩, last, mem_append_left _ isLast, ended⟩
      obtain ⟨⟨start, isStart, started⟩, last, isLast, ended⟩ := others.within other later
      exact ⟨⟨start, mem_append_right _ isStart, started⟩, last, mem_append_right _ isLast, ended⟩
    · rw [map_cons, sum_cons, map_append, sum_append, others.extent, spans.extent]
    have nonempty : 0 < part.length := by
      obtain ⟨run, member, _⟩ := spans.starts
      exact length_pos_of_mem member
    have fewer := others.fewer
    simp only [length_cons, length_append]
    omega

/-! ### Joined sessions -/

def chunkSessions (chunk : SessionCandidate × List SessionCandidate) : List SessionCandidate :=
  chunk.1 :: chunk.2

/-- Sessions that may be joined: with short gaps, a short span, and one pair of issues. -/
structure Chunk (chunk : SessionCandidate × List SessionCandidate) : Prop where
  gaps : (chunkSessions chunk).IsChain fun first second =>
    second.startedAtUnixMs - first.endedAtUnixMs ≤ maxReviewSessionIdleGapMilliseconds
  span : ∀ session ∈ chunk.2,
    session.endedAtUnixMs - chunk.1.startedAtUnixMs ≤ maxReviewSessionSpanMilliseconds
  issues : ∀ session ∈ chunk.2, jiraPartition session = jiraPartition chunk.1

theorem chunksFrom_spec (first : SessionCandidate) (rest sessions : List SessionCandidate)
    (isOpen : Chunk (first, rest)) : (∀ chunk ∈ chunksFrom first rest sessions, Chunk chunk) ∧
      (chunksFrom first rest sessions).flatMap chunkSessions = first :: rest ++ sessions := by
  induction sessions generalizing first rest with
  | nil =>
    refine ⟨?_, by simp [chunksFrom, chunkSessions]⟩
    intro chunk member
    rwa [mem_singleton.1 member]
  | cons session sessions ih =>
    rw [chunksFrom]
    split
    · have alone : Chunk (session, []) :=
        ⟨List.IsChain.singleton _, fun _ none => absurd none not_mem_nil,
          fun _ none => absurd none not_mem_nil⟩
      obtain ⟨chunks, sessions⟩ := ih session [] alone
      refine ⟨?_, ?_⟩
      · intro chunk member
        rcases mem_cons.1 member with rfl | later
        · exact isOpen
        exact chunks chunk later
      rw [flatMap_cons, sessions]
      simp [chunkSessions]
    rename_i stays
    simp only [shouldFlush, Bool.or_eq_true, decide_eq_true_eq, not_or, not_lt, ne_eq,
      not_not] at stays
    obtain ⟨⟨gap, span⟩, issues⟩ := stays
    have longer : Chunk (first, rest ++ [session]) := by
      refine ⟨?_, ?_, ?_⟩
      · have whole : chunkSessions (first, rest ++ [session]) = (first :: rest) ++ [session] := rfl
        rw [whole, isChain_append]
        refine ⟨isOpen.gaps, List.IsChain.singleton _, ?_⟩
        intro last isLast next isNext
        rw [getLast?_eq_getLast_of_ne_nil (cons_ne_nil _ _), Option.mem_some_iff]
          at isLast
        rw [head?_cons, Option.mem_some_iff] at isNext
        rw [← isLast, ← isNext]
        exact gap
      · intro other member
        rcases mem_append.1 member with old | new
        · exact isOpen.span other old
        rwa [mem_singleton.1 new]
      intro other member
      rcases mem_append.1 member with old | new
      · exact isOpen.issues other old
      rw [mem_singleton.1 new]
      exact issues.symm
    obtain ⟨chunks, sessions⟩ := ih first (rest ++ [session]) longer
    exact ⟨chunks, by rw [sessions]; simp⟩

/-- The chunks of a review are its sessions, in order and within the limits. -/
theorem reviewChunks_spec (sessions : List SessionCandidate) :
    (∀ chunk ∈ reviewChunks sessions, Chunk chunk) ∧
      (reviewChunks sessions).flatMap chunkSessions = sessions := by
  cases sessions with
  | nil => exact ⟨fun _ member => absurd member not_mem_nil, rfl⟩
  | cons session sessions =>
    exact chunksFrom_spec session [] sessions
      ⟨List.IsChain.singleton _, fun _ none => absurd none not_mem_nil,
        fun _ none => absurd none not_mem_nil⟩

/-- The returned session is what a chunk is joined to. -/
def Joins (chunk : SessionCandidate × List SessionCandidate) (session : SessionCandidate) : Prop :=
  session = { aggregateSessionChunk chunk.1 chunk.2 with id := session.id }

/-- A session that is joined of a chunk. -/
structure Joined (chunk : SessionCandidate × List SessionCandidate) (session : SessionCandidate) :
    Prop where
  limits : Chunk chunk
  joins : Joins chunk session
  span : chunk.2 ≠ [] → session.extent ≤ maxReviewSessionSpanMilliseconds

variable {chunk : SessionCandidate × List SessionCandidate}

theorem Joins.joined
    (joins : Joins chunk session) (isChunk : Chunk chunk) : Joined chunk session := by
  refine ⟨isChunk, joins, ?_⟩
  intro several
  have extent : session.extent = ((chunk.1 :: chunk.2).getLast (cons_ne_nil _ _)).endedAtUnixMs -
      chunk.1.startedAtUnixMs := by
    rw [joins]
    rfl
  rw [extent, getLast_cons several]
  exact isChunk.span _ (getLast_mem several)

/-- What joined sessions keep of the sessions that they were joined from. -/
structure JoinKeeps (blocks sessions : List SessionCandidate) : Prop where
  ordered : Ordered sessions
  nonempty : ∀ session ∈ sessions, session.startedAtUnixMs < session.endedAtUnixMs
  within : ∀ session ∈ sessions,
    (∃ block ∈ blocks, block.startedAtUnixMs = session.startedAtUnixMs) ∧
      ∃ block ∈ blocks, block.endedAtUnixMs = session.endedAtUnixMs
  durations : (sessions.map SessionCandidate.durationSeconds).sum =
    (blocks.map SessionCandidate.durationSeconds).sum

theorem Joins.bounds (joins : Joins chunk session) :
    chunk.1.startedAtUnixMs = session.startedAtUnixMs ∧
      ∃ last ∈ chunkSessions chunk, last.endedAtUnixMs = session.endedAtUnixMs := by
  rw [joins]
  exact ⟨rfl, (chunk.1 :: chunk.2).getLast (cons_ne_nil _ _), getLast_mem _, rfl⟩

theorem Joins.nonempty
    (joins : Joins chunk session) (timed : ∀ block ∈ chunkSessions chunk, Timed block)
    (ordered : Ordered (chunkSessions chunk)) :
    session.startedAtUnixMs < session.endedAtUnixMs := by
  obtain ⟨started, last, isLast, ended⟩ := joins.bounds
  have first := (timed chunk.1 mem_cons_self).nonempty
  rw [← started, ← ended]
  rcases mem_cons.1 isLast with rfl | later
  · exact first
  have after := (pairwise_cons.1 ordered).1 last later
  exact first.trans_le (after.trans (timed last isLast).nonempty.le)

theorem joins_keep {chunks : List (SessionCandidate × List SessionCandidate)}
    {sessions : List SessionCandidate} (joins : List.Forall₂ Joins chunks sessions)
    (timed : ∀ block ∈ chunks.flatMap chunkSessions, Timed block)
    (ordered : Ordered (chunks.flatMap chunkSessions)) :
    JoinKeeps (chunks.flatMap chunkSessions) sessions := by
  induction joins with
  | nil =>
    exact ⟨List.Pairwise.nil, fun _ member => absurd member not_mem_nil,
      fun _ member => absurd member not_mem_nil, rfl⟩
  | @cons chunk session chunks sessions first _ ih =>
    rw [flatMap_cons] at timed ordered ⊢
    obtain ⟨orderedFirst, orderedRest, across⟩ := pairwise_append.1 ordered
    have others := ih (fun block member => timed block (mem_append_right _ member)) orderedRest
    have timedFirst : ∀ block ∈ chunkSessions chunk, Timed block :=
      fun block member => timed block (mem_append_left _ member)
    obtain ⟨started, last, isLast, ended⟩ := first.bounds
    refine ⟨?_, ?_, ?_, ?_⟩
    · refine pairwise_cons.2 ⟨?_, others.ordered⟩
      intro other later
      obtain ⟨⟨block, isBlock, starts⟩, _⟩ := others.within other later
      rw [← ended, ← starts]
      exact across last isLast block isBlock
    · intro other member
      rcases mem_cons.1 member with rfl | later
      · exact first.nonempty timedFirst orderedFirst
      exact others.nonempty other later
    · intro other member
      rcases mem_cons.1 member with rfl | later
      · exact ⟨⟨chunk.1, mem_append_left _ mem_cons_self, started⟩, last,
          mem_append_left _ isLast, ended⟩
      obtain ⟨⟨start, isStart, starts⟩, final, isFinal, ends⟩ := others.within other later
      exact ⟨⟨start, mem_append_right _ isStart, starts⟩, final, mem_append_right _ isFinal, ends⟩
    have duration : session.durationSeconds =
        ((chunkSessions chunk).map SessionCandidate.durationSeconds).sum := by
      rw [first]
      rfl
    rw [map_cons, sum_cons, map_append, sum_append, others.durations, duration]

theorem durations_bounds {sessions : List SessionCandidate} (timed : ∀ session ∈ sessions, Timed session) :
    1000 * ((sessions.map SessionCandidate.durationSeconds).sum : ℤ) ≤
        (sessions.map SessionCandidate.extent).sum ∧ (sessions.map SessionCandidate.extent).sum ≤
        1000 * ((sessions.map SessionCandidate.durationSeconds).sum : ℤ) + 999 * sessions.length := by
  induction sessions with
  | nil => simp
  | cons session sessions ih =>
    have others := ih fun other member => timed other (mem_cons_of_mem _ member)
    have bounds := (timed session mem_cons_self).bounds
    simp only [map_cons, sum_cons, length_cons, Nat.cast_add, Nat.cast_one]
    omega

theorem retained_bounds {runs retained : List SessionCandidate}
    (isRetained : (runs.filter fun session => 0 < session.durationSeconds) = retained)
    (timed : ∀ run ∈ runs, Timed run) :
    (retained.map SessionCandidate.extent).sum ≤ (runs.map SessionCandidate.extent).sum ∧
      (runs.map SessionCandidate.extent).sum + 999 * retained.length ≤
        (retained.map SessionCandidate.extent).sum + 999 * runs.length := by
  subst isRetained
  induction runs with
  | nil => simp
  | cons run runs ih =>
    have others := ih fun other member => timed other (mem_cons_of_mem _ member)
    have bounds := (timed run mem_cons_self).bounds
    have nonempty : 0 < run.extent := Int.sub_pos.2 (timed run mem_cons_self).nonempty
    rw [filter_cons]
    split
    · simp only [map_cons, sum_cons, length_cons, Nat.cast_add, Nat.cast_one]
      omega
    rename_i dropped
    rw [decide_eq_true_eq] at dropped
    simp only [map_cons, sum_cons, length_cons, Nat.cast_add, Nat.cast_one]
    omega

theorem extent_runs : Sweep.extent (fun start stop : ℤ => stop - start)
        ((sessionRuns activities afkIntervals rangeStart rangeEnd).map SessionCandidate.slice) =
      ((sessionRuns activities afkIntervals rangeStart rangeEnd).map SessionCandidate.extent).sum := by
  rw [Sweep.extent, map_map]
  rfl

/-- What the sessions of a range promise about the recorded time. -/
structure SessionsExact (activities : List DerivedActivity) (afkIntervals : List (ℤ × ℤ))
    (rangeStart rangeEnd : ℤ) (sessions : List SessionCandidate) : Prop where
  ordered : Ordered sessions
  inside : ∀ session ∈ sessions, rangeStart ≤ session.startedAtUnixMs ∧
    session.startedAtUnixMs < session.endedAtUnixMs ∧ session.endedAtUnixMs ≤ rangeEnd
  /-- The runs are the maximal ones, and they cover the active instants. -/
  maximal : Canonical ((sessionRuns activities afkIntervals rangeStart rangeEnd).map
    SessionCandidate.slice)
  active : covered ((sessionRuns activities afkIntervals rangeStart rangeEnd).map
    SessionCandidate.slice) = { t | Active activities afkIntervals rangeStart rangeEnd t }
  neverMore : 1000 * ((sessions.map SessionCandidate.durationSeconds).sum : ℤ) ≤
    { t | Active activities afkIntervals rangeStart rangeEnd t }.ncard
  shortfall : ({ t | Active activities afkIntervals rangeStart rangeEnd t }.ncard : ℤ) ≤
    1000 * ((sessions.map SessionCandidate.durationSeconds).sum : ℤ) +
      999 * (sessionRuns activities afkIntervals rangeStart rangeEnd).length
  /-- The sessions are joined from blocks, and each block is a run or has interruptions in it. -/
  joined : ∃ blocks chunks,
    Blocks ((sessionRuns activities afkIntervals rangeStart rangeEnd).filter
      fun session => 0 < session.durationSeconds) blocks ∧
    chunks.flatMap chunkSessions = blocks ∧ List.Forall₂ Joined chunks sessions

theorem runs_ordered : Ordered (sessionRuns activities afkIntervals rangeStart rangeEnd) :=
  have canonical : Canonical ((sessionRuns activities afkIntervals rangeStart rangeEnd).map
      SessionCandidate.slice) := runs_canonical
  pairwise_map.1 canonical.ordered

theorem runs_inside (range : rangeStart ≤ rangeEnd) :
    ∀ run ∈ sessionRuns activities afkIntervals rangeStart rangeEnd,
      rangeStart ≤ run.startedAtUnixMs ∧ run.endedAtUnixMs ≤ rangeEnd := by
  intro run member
  have nonempty := (sessionRuns_timed run member).nonempty
  have within : ∀ t, run.startedAtUnixMs ≤ t → t < run.endedAtUnixMs →
      rangeStart ≤ t ∧ t < rangeEnd := by
    intro t reached before
    have isCovered : t ∈ covered ((sessionRuns activities afkIntervals rangeStart rangeEnd).map
        SessionCandidate.slice) := ⟨run.slice, mem_map.2 ⟨run, member, rfl⟩, reached, before⟩
    rw [covered_runs range] at isCovered
    exact isCovered.1
  have first := within run.startedAtUnixMs le_rfl nonempty
  have last := within (run.endedAtUnixMs - 1) (by omega) (by omega)
  omega

theorem sessionize_eq_map (chunks : List (SessionCandidate × List SessionCandidate)) :
    List.Forall₂ Joins chunks
      ((chunks.map fun chunk => aggregateSessionChunk chunk.1 chunk.2).mapIdx
        fun index session => { session with id := sessionId index }) := by
  rw [forall₂_iff_get]
  refine ⟨by simp, ?_⟩
  intro index first second
  simp [Joins]

/-- How the sessions come from the runs that last a second. -/
structure Assembled (runs blocks sessions : List SessionCandidate)
    (chunks : List (SessionCandidate × List SessionCandidate)) : Prop where
  made : Blocks runs blocks
  keeps : Keeps runs blocks
  flat : chunks.flatMap chunkSessions = blocks
  joined : List.Forall₂ Joined chunks sessions
  joinKeeps : JoinKeeps blocks sessions

theorem sessionize_assembled (activities : List DerivedActivity) (afkIntervals : List (ℤ × ℤ))
    (rangeStart rangeEnd : ℤ) : ∃ blocks chunks, Assembled
      ((sessionRuns activities afkIntervals rangeStart rangeEnd).filter
        fun session => 0 < session.durationSeconds)
      blocks (sessionize activities afkIntervals rangeStart rangeEnd) chunks := by
  let retained := (sessionRuns activities afkIntervals rangeStart rangeEnd).filter
    fun session => 0 < session.durationSeconds
  let blocks := collapseTransientInterruptions retained
  have isBlocks : Blocks retained blocks := collapse_blocks
  have keeps : Keeps retained blocks := isBlocks.keeps
    (fun run member => sessionRuns_timed run (mem_of_mem_filter member))
    (runs_ordered.sublist filter_sublist)
  obtain ⟨areChunks, flat⟩ := reviewChunks_spec blocks
  have joins := sessionize_eq_map (reviewChunks blocks)
  have joinKeeps := joins_keep joins (flat.symm ▸ keeps.timed) (flat.symm ▸ keeps.ordered)
  rw [flat] at joinKeeps
  have limited := (forall₂_and_left _ _).2 ⟨areChunks, joins⟩
  exact ⟨blocks, reviewChunks blocks, isBlocks, keeps, flat,
    limited.imp fun _ _ ⟨isChunk, join⟩ => join.joined isChunk, joinKeeps⟩

theorem sessionize_inside (range : rangeStart ≤ rangeEnd) :
    ∀ session ∈ sessionize activities afkIntervals rangeStart rangeEnd,
      rangeStart ≤ session.startedAtUnixMs ∧ session.startedAtUnixMs < session.endedAtUnixMs ∧
        session.endedAtUnixMs ≤ rangeEnd := by
  obtain ⟨blocks, chunks, assembled⟩ :=
    sessionize_assembled activities afkIntervals rangeStart rangeEnd
  intro session member
  obtain ⟨⟨first, isFirst, started⟩, last, isLast, ended⟩ :=
    assembled.joinKeeps.within session member
  obtain ⟨⟨run, isRun, starts⟩, _⟩ := assembled.keeps.within first isFirst
  obtain ⟨_, final, isFinal, ends⟩ := assembled.keeps.within last isLast
  have low := (runs_inside range run (mem_of_mem_filter isRun)).1
  have high := (runs_inside range final (mem_of_mem_filter isFinal)).2
  exact ⟨by omega, assembled.joinKeeps.nonempty session member, by omega⟩

/-- The sessions neither invent nor double-count time. -/
theorem sessionize_exact (activities : List DerivedActivity) (afkIntervals : List (ℤ × ℤ))
    (rangeStart rangeEnd : ℤ) (range : rangeStart ≤ rangeEnd) :
    SessionsExact activities afkIntervals rangeStart rangeEnd
      (sessionize activities afkIntervals rangeStart rangeEnd) := by
  obtain ⟨blocks, chunks, assembled⟩ :=
    sessionize_assembled activities afkIntervals rangeStart rangeEnd
  have measure : ({ t | Active activities afkIntervals rangeStart rangeEnd t }.ncard : ℤ) =
      ((sessionRuns activities afkIntervals rangeStart rangeEnd).map
        SessionCandidate.extent).sum := by
    rw [← covered_runs range, (ncard_covered counts_int runs_canonical.toInOrder.apart).2, extent_runs]
  have seconds := durations_bounds assembled.keeps.timed
  have timed : ∀ session ∈ sessionRuns activities afkIntervals rangeStart rangeEnd, Timed session :=
    sessionRuns_timed
  have dropped := retained_bounds rfl timed
  have fewer := assembled.keeps.fewer
  rw [assembled.keeps.extent] at seconds
  refine ⟨assembled.joinKeeps.ordered, sessionize_inside range, runs_canonical, covered_runs range,
    ?_, ?_, blocks, chunks, assembled.made, assembled.flat, assembled.joined⟩
  · rw [measure, assembled.joinKeeps.durations]
    exact seconds.1.trans dropped.1
  · rw [measure, assembled.joinKeeps.durations]
    omega

def editing (start stop : ℤ) : DerivedActivity where
  start := start
  stop := stop
  priority := 3
  kind := .coding
  description := "Coding"
  application := none
  activityEvidence := none
  jiraIssueKey := some "WTS-1"
  suggestedJiraIssueKey := none
  jiraSuggestionConfidence := none
  jiraSuggestionReason := none

def glance (start stop : ℤ) : DerivedActivity where
  start := start
  stop := stop
  priority := 1
  kind := .other
  description := "Other activity"
  application := none
  activityEvidence := none
  jiraIssueKey := none
  suggestedJiraIssueKey := none
  jiraSuggestionConfidence := none
  jiraSuggestionReason := none

/-- A morning of overlapping work on one issue, with a glance elsewhere, that reaches past the range. -/
def morning : List DerivedActivity :=
  [editing 0 600000, editing 300000 900000, glance 880000 910000, editing 910000 1500000]

/-- The time away separates two sessions, and the glance is absorbed. -/
theorem sessionize_exact_sample :
    (sessionize morning [(100000, 500000)] 0 1400000).map (fun session =>
        (session.startedAtUnixMs, session.endedAtUnixMs, session.durationSeconds)) =
      [(0, 100000, 100), (500000, 1400000, 900)] ∧
    SessionsExact morning [(100000, 500000)] 0 1400000
      (sessionize morning [(100000, 500000)] 0 1400000) :=
  ⟨by decide +kernel, sessionize_exact morning [(100000, 500000)] 0 1400000 (by decide)⟩

/-- A returned session of more than thirty minutes has runs of different issues in it: the span and
the issues limit what is joined for the review, not what an absorbed interruption reconnects. -/
theorem sessionize_span_counterexample :
    ∃ activities afkIntervals, ∃ rangeStart rangeEnd : ℤ, rangeStart ≤ rangeEnd ∧
      ∃ session ∈ sessionize activities afkIntervals rangeStart rangeEnd,
      ∃ first ∈ sessionRuns activities afkIntervals rangeStart rangeEnd,
      ∃ second ∈ sessionRuns activities afkIntervals rangeStart rangeEnd,
        session.startedAtUnixMs ≤ first.startedAtUnixMs ∧
        first.endedAtUnixMs ≤ second.startedAtUnixMs ∧
        second.endedAtUnixMs ≤ session.endedAtUnixMs ∧ jiraPartition first ≠ jiraPartition second ∧
        maxReviewSessionSpanMilliseconds < session.extent := by
  let activities := [editing 0 1200000, glance 1200000 1210000, editing 1210000 2410000]
  have runs : sessionRuns activities [] 0 2410000 =
      [newSession { key := editing 0 1200000, start := 0, stop := 1200000 },
        newSession { key := glance 1200000 1210000, start := 1200000, stop := 1210000 },
        newSession { key := editing 1210000 2410000, start := 1210000, stop := 2410000 }] := by
    decide +kernel
  let whole := absorb (newSession { key := editing 0 1200000, start := 0, stop := 1200000 })
    (newSession { key := glance 1200000 1210000, start := 1200000, stop := 1210000 })
    (newSession { key := editing 1210000 2410000, start := 1210000, stop := 2410000 })
  have blocks : collapseTransientInterruptions
      ((sessionRuns activities [] 0 2410000).filter fun session => 0 < session.durationSeconds) =
        [whole] := by
    rw [runs, collapseTransientInterruptions, filter_eq_self.2 (by decide), collapseFrom,
      if_pos (by decide), collapseFrom]
    · rfl
    · exact fun _ _ _ _ several => by cases several
  have sessions : sessionize activities [] 0 2410000 =
      [{ aggregateSessionChunk whole [] with id := sessionId 0 }] := by
    simp only [sessionize, blocks, aggregateReviewSessions, reviewChunks, chunksFrom]
    rfl
  refine ⟨activities, [], 0, 2410000, by decide, _, by rw [sessions]; exact mem_cons_self, _,
    by rw [runs]; exact mem_cons_self, _,
    by rw [runs]; exact mem_cons_of_mem _ mem_cons_self, ?_⟩
  decide

end Wts.ActivityWatch
