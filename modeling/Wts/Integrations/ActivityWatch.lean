/-
Module: Wts.Integrations.ActivityWatch
Purpose: The daily review of recorded activity.
-/
import Wts.Library.Sweep
import Wts.Integrations.ActivityEvidence

namespace Wts.ActivityWatch

open Sweep Text Words

structure SessionCandidate where
  id : String
  kind : SessionKind
  startedAtUnixMs : ℤ
  endedAtUnixMs : ℤ
  durationSeconds : ℕ
  description : String
  application : Option String
  activityEvidence : Option String
  jiraIssueKey : Option String
  suggestedJiraIssueKey : Option String
  jiraSuggestionConfidence : Option ℕ
  jiraSuggestionReason : Option String
  sourceEventCount : ℕ
deriving DecidableEq

structure DailyReview where
  schemaVersion : ℕ
  startedAtUnixMs : ℤ
  endedAtUnixMs : ℤ
  totalActiveSeconds : ℕ
  sessions : List SessionCandidate
  detail : String

inductive ReviewError where
  | invalidTimeRange
  | connectionFailed
  | requestTimedOut
  | responseTooLarge
  | responseInvalid
  | endpointRedirected
  | serverRejected

def maxReviewBuckets : ℕ := 64
def maxReviewEvents : ℕ := 10000
def maxReviewWindowMilliseconds : ℤ := 48 * 60 * 60 * 1000
def transientSessionSeconds : ℕ := 30
def maxReviewSessionSpanMilliseconds : ℤ := 30 * 60 * 1000
def maxReviewSessionIdleGapMilliseconds : ℤ := 5 * 60 * 1000

/-- `value.max(range_start).min(range_end)`. -/
def clamp (rangeStart rangeEnd value : ℤ) : ℤ :=
  min (max value rangeStart) rangeEnd

def sessionBoundaries (activities : List DerivedActivity) (afkIntervals : List (ℤ × ℤ))
    (rangeStart rangeEnd : ℤ) : List ℤ :=
  boundaries
    ([rangeStart, rangeEnd] ++
      activities.flatMap (fun activity =>
        [clamp rangeStart rangeEnd activity.start, clamp rangeStart rangeEnd activity.stop]) ++
      afkIntervals.flatMap fun interval =>
        [clamp rangeStart rangeEnd interval.1, clamp rangeStart rangeEnd interval.2])

/-- The activity of the slice between two boundaries, if there is one. -/
def winner (activities : List DerivedActivity) (afkIntervals : List (ℤ × ℤ)) (start stop : ℤ) :
    Option DerivedActivity :=
  if stop ≤ start then
    none
  else
    let midpoint := start + (stop - start) / 2
    if afkIntervals.any fun interval => interval.1 ≤ midpoint && midpoint < interval.2 then
      none
    else
      maxByKey DerivedActivity.priority
        (activities.filter fun activity =>
          activity.start ≤ midpoint && midpoint < activity.stop)

def activitySlices (activities : List DerivedActivity) (afkIntervals : List (ℤ × ℤ))
    (rangeStart rangeEnd : ℤ) : List (Slice ℤ DerivedActivity) :=
  label (winner activities afkIntervals)
    (sessionBoundaries activities afkIntervals rangeStart rangeEnd)

/-- `((end - start) / 1_000) as u64`. -/
def durationSeconds (start stop : ℤ) : ℕ :=
  ((stop - start) / 1000).toNat

def newSession (slice : Slice ℤ DerivedActivity) : SessionCandidate where
  id := ""
  kind := slice.key.kind
  startedAtUnixMs := slice.start
  endedAtUnixMs := slice.stop
  durationSeconds := durationSeconds slice.start slice.stop
  description := slice.key.description
  application := slice.key.application
  activityEvidence := slice.key.activityEvidence
  jiraIssueKey := slice.key.jiraIssueKey
  suggestedJiraIssueKey := slice.key.suggestedJiraIssueKey
  jiraSuggestionConfidence := slice.key.jiraSuggestionConfidence
  jiraSuggestionReason := slice.key.jiraSuggestionReason
  sourceEventCount := 1

/-- A slice extends the last session if it touches it and is of the same work. The last session is the
head of the list. -/
def pushSession (sessions : List SessionCandidate) (slice : Slice ℤ DerivedActivity) :
    List SessionCandidate :=
  match sessions with
  | [] => [newSession slice]
  | previous :: earlier =>
    if previous.endedAtUnixMs = slice.start ∧ previous.kind = slice.key.kind ∧
        previous.jiraIssueKey = slice.key.jiraIssueKey ∧
        previous.suggestedJiraIssueKey = slice.key.suggestedJiraIssueKey ∧
        previous.description = slice.key.description ∧
        previous.application = slice.key.application ∧
        previous.activityEvidence = slice.key.activityEvidence then
      { previous with
        endedAtUnixMs := slice.stop
        durationSeconds := durationSeconds previous.startedAtUnixMs slice.stop
        sourceEventCount := previous.sourceEventCount + 1 } :: earlier
    else
      newSession slice :: previous :: earlier

/-- The maximal runs of equal adjacent slices. -/
def sessionRuns (activities : List DerivedActivity) (afkIntervals : List (ℤ × ℤ))
    (rangeStart rangeEnd : ℤ) : List SessionCandidate :=
  ((activitySlices activities afkIntervals rangeStart rangeEnd).foldl pushSession []).reverse

def hasJiraEvidence (session : SessionCandidate) : Bool :=
  session.jiraIssueKey.isSome || session.suggestedJiraIssueKey.isSome

def sameSurroundingContext (previous next : SessionCandidate) : Bool :=
  previous.kind = next.kind && previous.jiraIssueKey = next.jiraIssueKey &&
    previous.suggestedJiraIssueKey = next.suggestedJiraIssueKey &&
    previous.description = next.description

/-- The session between two others is an interruption of their work. -/
def isTransient (previous middle next : SessionCandidate) : Bool :=
  middle.durationSeconds < transientSessionSeconds && !hasJiraEvidence middle &&
    previous.endedAtUnixMs = middle.startedAtUnixMs &&
    middle.endedAtUnixMs = next.startedAtUnixMs && sameSurroundingContext previous next

/-- The session with an interruption in it. -/
def absorb (previous middle next : SessionCandidate) : SessionCandidate :=
  { previous with
    endedAtUnixMs := next.endedAtUnixMs
    durationSeconds := durationSeconds previous.startedAtUnixMs next.endedAtUnixMs
    sourceEventCount := previous.sourceEventCount + middle.sourceEventCount + next.sourceEventCount }

/-- The loop of `collapse_transient_interruptions`. `before` holds the sessions before the previous
one, the last at its head, and `sessions` starts with the previous one. -/
def collapseFrom (before sessions : List SessionCandidate) : List SessionCandidate :=
  match sessions with
  | previous :: middle :: next :: rest =>
    if isTransient previous middle next then
      -- The index goes back by one, but not below the first session.
      match before with
      | [] => collapseFrom [] (absorb previous middle next :: rest)
      | last :: earlier => collapseFrom earlier (last :: absorb previous middle next :: rest)
    else
      collapseFrom (previous :: before) (middle :: next :: rest)
  | sessions => before.reverse ++ sessions
termination_by 2 * sessions.length + before.length

def collapseTransientInterruptions (sessions : List SessionCandidate) : List SessionCandidate :=
  collapseFrom [] sessions

def jiraPartition (session : SessionCandidate) : Option String × Option String :=
  (session.jiraIssueKey, session.suggestedJiraIssueKey)

/-- One session for a chunk of sessions, given by its first one and the others. -/
def aggregateSessionChunk (first : SessionCandidate) (rest : List SessionCandidate) :
    SessionCandidate :=
  let sessions := first :: rest
  let representative := (maxByKey SessionCandidate.durationSeconds sessions).getD first
  let last := sessions.getLast (List.cons_ne_nil _ _)
  { id := ""
    kind := representative.kind
    startedAtUnixMs := first.startedAtUnixMs
    endedAtUnixMs := last.endedAtUnixMs
    durationSeconds := (sessions.map SessionCandidate.durationSeconds).sum
    description := representative.description
    application := representative.application
    activityEvidence := representative.activityEvidence
    jiraIssueKey := first.jiraIssueKey
    suggestedJiraIssueKey := first.suggestedJiraIssueKey
    jiraSuggestionConfidence :=
      (sessions.filterMap SessionCandidate.jiraSuggestionConfidence).max?
    jiraSuggestionReason := sessions.findSome? SessionCandidate.jiraSuggestionReason
    sourceEventCount := (sessions.map SessionCandidate.sourceEventCount).sum }

/-- A session does not join the chunk that starts with `first` and ends with `previous`. -/
def shouldFlush (first previous session : SessionCandidate) : Bool :=
  maxReviewSessionIdleGapMilliseconds < session.startedAtUnixMs - previous.endedAtUnixMs ||
    maxReviewSessionSpanMilliseconds < session.endedAtUnixMs - first.startedAtUnixMs ||
    jiraPartition first ≠ jiraPartition session

/-- The chunks of sessions that are joined. The open chunk is given by its first session and the
others in order. -/
def chunksFrom (first : SessionCandidate) (rest : List SessionCandidate) :
    List SessionCandidate → List (SessionCandidate × List SessionCandidate)
  | [] => [(first, rest)]
  | session :: sessions =>
    if shouldFlush first ((first :: rest).getLast (List.cons_ne_nil _ _)) session then
      (first, rest) :: chunksFrom session [] sessions
    else
      chunksFrom first (rest ++ [session]) sessions

def reviewChunks : List SessionCandidate → List (SessionCandidate × List SessionCandidate)
  | [] => []
  | session :: sessions => chunksFrom session [] sessions

def aggregateReviewSessions (sessions : List SessionCandidate) : List SessionCandidate :=
  (reviewChunks sessions).map fun chunk => aggregateSessionChunk chunk.1 chunk.2

/-- `format!("aw-{:04}", index + 1)`. -/
def sessionId (index : ℕ) : String :=
  "aw-" ++ padded 4 (index + 1)

def sessionize (activities : List DerivedActivity) (afkIntervals : List (ℤ × ℤ))
    (rangeStart rangeEnd : ℤ) : List SessionCandidate :=
  let runs := sessionRuns activities afkIntervals rangeStart rangeEnd
  let retained := runs.filter fun session => 0 < session.durationSeconds
  let sessions := aggregateReviewSessions (collapseTransientInterruptions retained)
  sessions.mapIdx fun index session => { session with id := sessionId index }

/-! ### The daily review -/

/-- An event: its bounds, if its duration and its timestamp have any, and its data. -/
structure ActivityEvent where
  bounds : Option (ℤ × ℤ)
  data : EventData

/-- A bucket, and what the server answers when its events are read. -/
structure ActivityBucket where
  id : String
  bucketType : String
  events : Except ReviewError (List ActivityEvent)

def ActivitySource.fromBucketType (bucketType : String) : Option ActivitySource :=
  let normalized := toAsciiLowercase bucketType
  if containsText "afkstatus" normalized then
    some .afk
  else if containsText "currentwindow" normalized then
    some .window
  else if containsText "web.tab" normalized then
    some .browser
  else if containsText "editor" normalized then
    some .editor
  else
    none

/-- What was read so far: the activities, the times away, and the number of events. -/
structure Reading where
  activities : List DerivedActivity
  afkIntervals : List (ℤ × ℤ)
  eventCount : ℕ

def readEvent (source : ActivitySource) (jiraIssues : List JiraActiveIssue) (reading : Reading)
    (event : ActivityEvent) : Reading :=
  match event.bounds with
  | none => reading
  | some (start, stop) =>
    if source = .afk then
      if event.data.status.any fun status => toAsciiLowercase status = "afk" then
        { reading with afkIntervals := reading.afkIntervals ++ [(start, stop)] }
      else
        reading
    else
      { reading with
        activities := reading.activities ++
          [DerivedActivity.fromEvent source start stop event.data jiraIssues] }

def readBucket (jiraIssues : List JiraActiveIssue) (reading : Reading) (bucket : ActivityBucket) :
    Except ReviewError Reading :=
  match ActivitySource.fromBucketType bucket.bucketType with
  | none => .ok reading
  | some source => do
    let events ← bucket.events
    let eventCount := reading.eventCount + events.length
    if eventCount > maxReviewEvents then
      .error .responseTooLarge
    else
      .ok (events.foldl (readEvent source jiraIssues) { reading with eventCount := eventCount })

def readBuckets (jiraIssues : List JiraActiveIssue) (buckets : List ActivityBucket) :
    Except ReviewError Reading :=
  (buckets.insertionSort fun left right => left.id ≤ right.id).foldlM (readBucket jiraIssues)
    { activities := [], afkIntervals := [], eventCount := 0 }

/-- `daily_review_with_jira_issues`. -/
def dailyReview (buckets : Except ReviewError (List ActivityBucket))
    (startedAtUnixMs endedAtUnixMs : ℤ) (jiraIssues : List JiraActiveIssue) :
    Except ReviewError DailyReview :=
  if startedAtUnixMs < 0 ∨ endedAtUnixMs ≤ startedAtUnixMs ∨
      maxReviewWindowMilliseconds < endedAtUnixMs - startedAtUnixMs then
    .error .invalidTimeRange
  else do
    let buckets ← buckets
    if buckets.length > maxReviewBuckets then
      .error .responseTooLarge
    else do
      let reading ← readBuckets jiraIssues buckets
      let sessions := sessionize reading.activities reading.afkIntervals startedAtUnixMs
        endedAtUnixMs
      .ok {
        schemaVersion := 1
        startedAtUnixMs := startedAtUnixMs
        endedAtUnixMs := endedAtUnixMs
        totalActiveSeconds := (sessions.map SessionCandidate.durationSeconds).sum
        sessions := sessions
        detail := "Derived locally for review. Raw ActivityWatch titles, URLs, paths, and event " ++
          "payloads were not retained." }

end Wts.ActivityWatch
