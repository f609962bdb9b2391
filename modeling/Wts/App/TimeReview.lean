/-
Module: Wts.App.TimeReview
Purpose: The draft of a time review.
-/
import Wts.Library.Grouping
import Wts.Library.MachineInt
import Wts.Library.StdTypes
import Wts.Library.Text

namespace Wts.TimeReview

open Sweep Text
open MachineInt (total)

inductive TimeAttribution where
  | existingJira (issueKey : String)
  | createTicketProposal (projectKey : Option String) (summary : String)
  | unassigned
deriving DecidableEq

structure SanitizedAttentionInterval where
  schemaVersion : UInt32
  startedAtUnixMs : Int64
  endedAtUnixMs : Int64
  workspaceId : Option Uuid
  attribution : TimeAttribution

structure TimeReviewSegment where
  startedAtUnixMs : Int64
  endedAtUnixMs : Int64

structure TimeReviewGroup where
  workspaceId : Option Uuid
  attribution : TimeAttribution
  attentionMs : Int64
  segments : List TimeReviewSegment

structure TimeReviewDraft where
  schemaVersion : UInt32
  totalAttentionMs : Int64
  unassignedAttentionMs : Int64
  groups : List TimeReviewGroup

inductive TimeReviewError where
  | tooManyIntervals
  | invalidInterval
  | invalidAttribution
  | invalidSchedule

structure GroupKey where
  workspaceId : Option Uuid
  attribution : TimeAttribution
deriving DecidableEq

def sanitizedAttentionSchemaVersion : UInt32 := 1
def timeReviewSchemaVersion : UInt32 := 1
def maxSanitizedAttentionIntervals : ℕ := 4096
def maxProjectKeyBytes : ℕ := 32
def maxIssueNumberBytes : ℕ := 18
def maxProposalSummaryChars : ℕ := 240

/-- The place of the variant, and its fields. -/
def TimeAttribution.fields : TimeAttribution → ℕ × Option String × String
  | .existingJira issueKey => (0, none, issueKey)
  | .createTicketProposal projectKey summary => (1, projectKey, summary)
  | .unassigned => (2, none, "")

theorem TimeAttribution.fields_injective : Function.Injective TimeAttribution.fields := by
  intro first second same
  cases first <;> cases second <;> simp_all [TimeAttribution.fields]

/-- The order that is derived for the group key: by workspace, variant and fields. -/
def GroupKey.order : GroupKey → GroupKey → Ordering :=
  compareLex (compareOn GroupKey.workspaceId)
    (compareLex (compareOn fun key => key.attribution.fields.1)
      (compareLex (compareOn fun key => key.attribution.fields.2.1)
        (compareOn fun key => key.attribution.fields.2.2)))

instance : Ord GroupKey where
  compare := GroupKey.order

instance : Std.TransOrd GroupKey :=
  inferInstanceAs (Std.TransCmp
    (compareLex (compareOn GroupKey.workspaceId)
      (compareLex (compareOn fun key : GroupKey => key.attribution.fields.1)
        (compareLex (compareOn fun key : GroupKey => key.attribution.fields.2.1)
          (compareOn fun key : GroupKey => key.attribution.fields.2.2)))))

instance : Std.LawfulEqOrd GroupKey where
  eq_of_compare := by
    intro first second equal
    change GroupKey.order first second = .eq at equal
    simp only [GroupKey.order, compareLex_eq_eq] at equal
    obtain ⟨workspace, variant, project, text⟩ := equal
    have sameWorkspace : first.workspaceId = second.workspaceId :=
      Std.LawfulEqOrd.eq_of_compare workspace
    have sameAttribution : first.attribution = second.attribution :=
      TimeAttribution.fields_injective
        (Prod.ext (Std.LawfulEqOrd.eq_of_compare variant)
          (Prod.ext (Std.LawfulEqOrd.eq_of_compare project) (Std.LawfulEqOrd.eq_of_compare text)))
    cases first
    cases second
    rw [GroupKey.mk.injEq]
    exact ⟨sameWorkspace, sameAttribution⟩

def validProjectKey (projectKey : String) : Bool :=
  2 ≤ projectKey.utf8ByteSize && projectKey.utf8ByteSize ≤ maxProjectKeyBytes &&
    projectKey.toList.head?.any Char.isUpper &&
    (projectKey.toList.drop 1).all fun c => c.isUpper || c.isDigit || c = '_'

def validAttribution : TimeAttribution → Bool
  | .existingJira issueKey =>
    match splitOnce '-' issueKey with
    | none => false
    | some (projectKey, issueNumber) =>
      validProjectKey projectKey && issueNumber ≠ "" &&
        issueNumber.utf8ByteSize ≤ maxIssueNumberBytes && !startsWith "0" issueNumber &&
        issueNumber.toList.all Char.isDigit
  | .createTicketProposal projectKey summary =>
    projectKey.all validProjectKey && summary ≠ "" && trim summary = summary &&
      summary.toList.length ≤ maxProposalSummaryChars && !summary.toList.any isControl
  | .unassigned => true

def validInterval (interval : SanitizedAttentionInterval) : Bool :=
  interval.schemaVersion = sanitizedAttentionSchemaVersion && 0 ≤ interval.startedAtUnixMs &&
    interval.startedAtUnixMs < interval.endedAtUnixMs

/-! ### The draft -/

/-- The intervals that are active between two boundaries. -/
def active (intervals : List SanitizedAttentionInterval) (start stop : Int64) :
    List SanitizedAttentionInterval :=
  intervals.filter fun interval =>
    interval.startedAtUnixMs < stop && start < interval.endedAtUnixMs

/-- The group of the intervals that are active at a time. -/
def sliceKey : List SanitizedAttentionInterval → Option GroupKey
  | [] => none
  | first :: rest =>
    let active := first :: rest
    if active.all fun interval =>
        interval.workspaceId = first.workspaceId ∧ interval.attribution = first.attribution then
      some { workspaceId := first.workspaceId, attribution := first.attribution }
    else
      let commonWorkspace :=
        if active.all fun interval => interval.workspaceId = first.workspaceId then
          first.workspaceId
        else
          none
      some { workspaceId := commonWorkspace, attribution := .unassigned }

def normalized (intervals : List SanitizedAttentionInterval) : List (Slice Int64 GroupKey) :=
  merge (label (fun start stop => sliceKey (active intervals start stop))
    (boundaries
      (intervals.flatMap fun interval => [interval.startedAtUnixMs, interval.endedAtUnixMs])))

def segment (slice : Slice Int64 GroupKey) : TimeReviewSegment where
  startedAtUnixMs := slice.start
  endedAtUnixMs := slice.stop

def grouped (slices : List (Slice Int64 GroupKey)) :
    Std.ExtTreeMap GroupKey (List TimeReviewSegment) compare :=
  Grouping.collect compare Slice.key [] (fun segments slice => segments ++ [segment slice]) slices

def group (key : GroupKey) (segments : List TimeReviewSegment) : TimeReviewGroup where
  workspaceId := key.workspaceId
  attribution := key.attribution
  attentionMs := total (segments.map fun segment =>
    segment.endedAtUnixMs - segment.startedAtUnixMs)
  segments := segments

/-- The draft of a list of groups. -/
def draft (groups : List TimeReviewGroup) : TimeReviewDraft where
  schemaVersion := timeReviewSchemaVersion
  totalAttentionMs := total (groups.map TimeReviewGroup.attentionMs)
  unassignedAttentionMs :=
    total ((groups.filter fun group => group.attribution = .unassigned).map
      TimeReviewGroup.attentionMs)
  groups := groups

def buildTimeReviewDraft (intervals : List SanitizedAttentionInterval) :
    Except TimeReviewError TimeReviewDraft :=
  if intervals.length > maxSanitizedAttentionIntervals then
    .error .tooManyIntervals
  else if intervals.any fun interval => !validInterval interval then
    .error .invalidInterval
  else if intervals.any fun interval => !validAttribution interval.attribution then
    .error .invalidAttribution
  else
    .ok (draft ((grouped (normalized intervals)).toList.map fun entry => group entry.1 entry.2))

end Wts.TimeReview
