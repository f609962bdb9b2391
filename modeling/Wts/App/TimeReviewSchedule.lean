/-
Module: Wts.App.TimeReviewSchedule
Purpose: The state of the daily time review at a time: not due, due, or some days behind. The code adds
  and multiplies without a check; an operation that leaves its type gives no result here.
-/
import Wts.App.TimeReview

namespace Wts.TimeReview

/-- The value of an operation, if it is an `i64`. -/
def checked64 (value : ℤ) : Option ℤ :=
  if -2 ^ 63 ≤ value ∧ value < 2 ^ 63 then some value else none

/-- `i16::abs`, which has no value at the minimum. -/
def checkedAbs (value : Int16) : Option ℤ :=
  if value.toInt = -2 ^ 15 then none else some |value.toInt|

/-- `i64::saturating_sub`. -/
def saturatingSub (a b : ℤ) : ℤ :=
  max (-2 ^ 63) (min (2 ^ 63 - 1) (a - b))

/-- `u32::try_from(value).unwrap_or(u32::MAX)`. -/
def toU32OrMax (value : ℤ) : ℤ :=
  if 0 ≤ value ∧ value < 2 ^ 32 then value else 2 ^ 32 - 1

/-! ### The schedule -/

structure TimeReviewSchedule where
  /-- Minute after local midnight. -/
  minuteOfLocalDay : UInt16
  /-- The local offset that applies now. -/
  utcOffsetMinutes : Int16

inductive TimeReviewScheduleState where
  | notDue (nextDueAtUnixMs : ℤ)
  | due (localDay dueAtUnixMs : ℤ)
  | catchUp (oldestUnreviewedLocalDay latestDueLocalDay dueDays : ℤ)

def millisPerMinute : ℤ := 60000
def millisPerDay : ℤ := 24 * 60 * millisPerMinute
def maxUtcOffsetMinutes : ℤ := 14 * 60

/-- `day * MILLIS_PER_DAY + scheduled_minute * MILLIS_PER_MINUTE - offset_ms`. -/
def dueInstant (day scheduledMinute offsetMs : ℤ) : Option ℤ := do
  let dayMs ← checked64 (day * millisPerDay)
  let minuteMs ← checked64 (scheduledMinute * millisPerMinute)
  let localMs ← checked64 (dayMs + minuteMs)
  checked64 (localMs - offsetMs)

/-- The last day whose scheduled minute has come. -/
def latestDueLocalDay (currentLocalDay currentLocalMinute scheduledMinute : ℤ) : Option ℤ :=
  if currentLocalMinute ≥ scheduledMinute then some currentLocalDay
  else checked64 (currentLocalDay - 1)

/-- The first day whose scheduled minute is to come. -/
def nextLocalDay (currentLocalDay currentLocalMinute scheduledMinute : ℤ) : Option ℤ :=
  if currentLocalMinute < scheduledMinute then some currentLocalDay
  else checked64 (currentLocalDay + 1)

/-- The state at a valid schedule and a time that is not negative. -/
def scheduleState (scheduledMinute offsetMinutes nowUnixMs : ℤ)
    (lastCompletedLocalDay : Option Int64) : Option TimeReviewScheduleState := do
  let offsetMs ← checked64 (offsetMinutes * millisPerMinute)
  let localNowMs ← checked64 (nowUnixMs + offsetMs)
  let currentLocalDay := localNowMs / millisPerDay
  let currentLocalMinute := localNowMs % millisPerDay / millisPerMinute
  let latest ← latestDueLocalDay currentLocalDay currentLocalMinute scheduledMinute
  let dueAtUnixMs ← dueInstant latest scheduledMinute offsetMs
  match lastCompletedLocalDay with
  | none => some (.due latest dueAtUnixMs)
  | some completed =>
    if completed.toInt ≥ latest then do
      let next ← nextLocalDay currentLocalDay currentLocalMinute scheduledMinute
      let nextDueAtUnixMs ← dueInstant next scheduledMinute offsetMs
      some (.notDue nextDueAtUnixMs)
    else if saturatingSub latest completed.toInt > 1 then do
      let dueDays := toU32OrMax (saturatingSub latest completed.toInt)
      let oldest ← checked64 (completed.toInt + 1)
      some (.catchUp oldest latest dueDays)
    else
      some (.due latest dueAtUnixMs)

/-- `time_review_schedule_state`; none is an arithmetic overflow. -/
def timeReviewScheduleState (schedule : TimeReviewSchedule) (nowUnixMs : Int64)
    (lastCompletedLocalDay : Option Int64) :
    Option (Except TimeReviewError TimeReviewScheduleState) :=
  -- the offset is looked at only after the minute is known to be valid
  if schedule.minuteOfLocalDay.toNat ≥ 24 * 60 then
    some (.error .invalidSchedule)
  else do
    let offset ← checkedAbs schedule.utcOffsetMinutes
    if offset > maxUtcOffsetMinutes ∨ nowUnixMs.toInt < 0 then
      some (.error .invalidSchedule)
    else
      let state ← scheduleState schedule.minuteOfLocalDay.toNat schedule.utcOffsetMinutes.toInt
        nowUnixMs.toInt lastCompletedLocalDay
      some (.ok state)

end Wts.TimeReview
