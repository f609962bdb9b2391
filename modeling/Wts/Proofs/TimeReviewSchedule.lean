/-
Module: Wts.Proofs.TimeReviewSchedule
Purpose: The schedule of the time review against the days that it means. A day is due at the instant
  of its scheduled minute, and the code finds the greatest due day as long as no sum leaves `i64`.
Trusted boundary: none
Main exports: timeReviewScheduleState_exact_iff
-/
import Wts.App.TimeReviewSchedule

namespace Wts.TimeReview

open Option

/-- The instant of the scheduled minute on a local day. -/
def TimeReviewSchedule.slot (schedule : TimeReviewSchedule) (day : ℤ) : ℤ :=
  day * millisPerDay + schedule.minuteOfLocalDay.toNat * millisPerMinute -
    schedule.utcOffsetMinutes.toInt * millisPerMinute

/-- The last day whose slot is not after a time. -/
def TimeReviewSchedule.latestDay (schedule : TimeReviewSchedule) (nowUnixMs : ℤ) : ℤ :=
  (nowUnixMs + schedule.utcOffsetMinutes.toInt * millisPerMinute -
    schedule.minuteOfLocalDay.toNat * millisPerMinute) / millisPerDay

/-- What makes a schedule invalid at a time. -/
def TimeReviewSchedule.Invalid (schedule : TimeReviewSchedule) (nowUnixMs : Int64) : Prop :=
  1439 < schedule.minuteOfLocalDay.toNat ∨ schedule.utcOffsetMinutes.toInt < -840 ∨
    840 < schedule.utcOffsetMinutes.toInt ∨ nowUnixMs.toInt < 0

instance (schedule : TimeReviewSchedule) (nowUnixMs : Int64) :
    Decidable (schedule.Invalid nowUnixMs) :=
  inferInstanceAs (Decidable (_ ∨ _))

/-- The state when `latest` is the greatest day that is due. -/
def TimeReviewSchedule.stateAt (schedule : TimeReviewSchedule) (latest : ℤ) :
    Option Int64 → TimeReviewScheduleState
  | none => .due latest (schedule.slot latest)
  | some completed =>
    if latest ≤ completed.toInt then .notDue (schedule.slot (latest + 1))
    else if completed.toInt ≤ latest - 2 then
      .catchUp (completed.toInt + 1) latest (min (latest - completed.toInt) (2 ^ 32 - 1))
    else .due latest (schedule.slot latest)

/-- The state of the schedule is the one its days mean. -/
def FollowsSchedule (schedule : TimeReviewSchedule) (nowUnixMs : Int64)
    (lastCompletedLocalDay : Option Int64) : Prop :=
  if schedule.Invalid nowUnixMs then
    timeReviewScheduleState schedule nowUnixMs lastCompletedLocalDay =
      some (.error .invalidSchedule)
  else
    ∃ latest, IsGreatest {day | schedule.slot day ≤ nowUnixMs.toInt} latest ∧
      timeReviewScheduleState schedule nowUnixMs lastCompletedLocalDay =
        some (.ok (schedule.stateAt latest lastCompletedLocalDay))

/-- The offset has an absolute value, the local time is an `i64`, and so are the sums for the next
slot where that one is asked for. -/
def InRange (schedule : TimeReviewSchedule) (nowUnixMs : Int64)
    (lastCompletedLocalDay : Option Int64) : Prop :=
  1439 < schedule.minuteOfLocalDay.toNat ∨
    (schedule.utcOffsetMinutes.toInt ≠ -2 ^ 15 ∧
      (schedule.Invalid nowUnixMs ∨
        (nowUnixMs.toInt + schedule.utcOffsetMinutes.toInt * millisPerMinute < 2 ^ 63 ∧
          ∀ completed ∈ lastCompletedLocalDay,
            schedule.latestDay nowUnixMs.toInt ≤ completed.toInt →
              (schedule.latestDay nowUnixMs.toInt + 1) * millisPerDay +
                  schedule.minuteOfLocalDay.toNat * millisPerMinute < 2 ^ 63 ∧
                schedule.slot (schedule.latestDay nowUnixMs.toInt + 1) < 2 ^ 63)))

/-- From the time at which a day is recorded to the next slot, the review is not due. -/
def StaysDone (schedule : TimeReviewSchedule) (nowUnixMs : Int64) : Prop :=
  ∀ completed later : Int64, ¬ schedule.Invalid nowUnixMs →
    IsGreatest {day | schedule.slot day ≤ nowUnixMs.toInt} completed.toInt →
    nowUnixMs ≤ later → later.toInt < schedule.slot (completed.toInt + 1) →
    InRange schedule later (some completed) →
      timeReviewScheduleState schedule later (some completed) =
        some (.ok (.notDue (schedule.slot (completed.toInt + 1))))

theorem slot_le_iff (schedule : TimeReviewSchedule) (day now : ℤ) :
    schedule.slot day ≤ now ↔ day ≤ schedule.latestDay now := by
  rw [TimeReviewSchedule.latestDay, Int.le_ediv_iff_mul_le (by decide)]
  unfold TimeReviewSchedule.slot
  omega

theorem isGreatest_latestDay (schedule : TimeReviewSchedule) (now : ℤ) :
    IsGreatest {day | schedule.slot day ≤ now} (schedule.latestDay now) :=
  ⟨(slot_le_iff schedule _ now).2 le_rfl, fun _ due => (slot_le_iff schedule _ now).1 due⟩

theorem isGreatest_slot_iff (schedule : TimeReviewSchedule) (now latest : ℤ) :
    IsGreatest {day | schedule.slot day ≤ now} latest ↔ latest = schedule.latestDay now :=
  ⟨fun greatest => greatest.unique (isGreatest_latestDay schedule now),
    fun same => same ▸ isGreatest_latestDay schedule now⟩

theorem checked64_eq_some {value : ℤ} (low : -2 ^ 63 ≤ value) (high : value < 2 ^ 63) :
    checked64 value = some value :=
  if_pos ⟨low, high⟩

theorem checked64_eq_some_iff {value result : ℤ} :
    checked64 value = some result ↔ (-2 ^ 63 ≤ value ∧ value < 2 ^ 63) ∧ value = result := by
  rw [checked64]
  split <;> simp_all

variable {schedule : TimeReviewSchedule}

/-- A slot is found when the sum before the offset is taken off, and the result, are in range. -/
theorem dueInstant_eq_some_iff {day result : ℤ}
    (minute : schedule.minuteOfLocalDay.toNat ≤ 1439) (low : -2 ^ 62 ≤ day * millisPerDay)
    (offsetLow : -840 ≤ schedule.utcOffsetMinutes.toInt)
    (offsetHigh : schedule.utcOffsetMinutes.toInt ≤ 840) :
    dueInstant day schedule.minuteOfLocalDay.toNat
        (schedule.utcOffsetMinutes.toInt * millisPerMinute) = some result ↔
      (day * millisPerDay + schedule.minuteOfLocalDay.toNat * millisPerMinute < 2 ^ 63 ∧
        schedule.slot day < 2 ^ 63) ∧ schedule.slot day = result := by
  simp only [dueInstant, bind_eq_bind, bind_eq_some_iff, checked64_eq_some_iff,
    TimeReviewSchedule.slot, millisPerDay, millisPerMinute] at *
  constructor
  · rintro ⟨_, ⟨_, rfl⟩, _, ⟨_, rfl⟩, _, ⟨high, rfl⟩, inside, rfl⟩
    exact ⟨⟨high.2, inside.2⟩, rfl⟩
  rintro ⟨⟨high, inside⟩, rfl⟩
  exact ⟨_, ⟨by omega, rfl⟩, _, ⟨by omega, rfl⟩, _, ⟨by omega, rfl⟩, by omega, rfl⟩

theorem toU32OrMax_saturatingSub {a b : ℤ} (later : b < a) :
    toU32OrMax (saturatingSub a b) = min (a - b) (2 ^ 32 - 1) := by
  unfold toU32OrMax saturatingSub
  split <;> omega

/-! ### The state -/

section Valid

variable {schedule : TimeReviewSchedule} {now : Int64}

section

variable (valid : ¬ schedule.Invalid now)
include valid

theorem latestDay_bounds :
    -2 ≤ schedule.latestDay now.toInt ∧ schedule.latestDay now.toInt < 2 ^ 40 := by
  have bound := Int64.toInt_lt now
  unfold TimeReviewSchedule.Invalid at valid
  unfold TimeReviewSchedule.latestDay millisPerDay millisPerMinute
  omega

/-- The code's day: today once the minute has come, else the day before. -/
theorem latestDay_eq :
    let localNow := now.toInt + schedule.utcOffsetMinutes.toInt * millisPerMinute
    schedule.latestDay now.toInt =
      if localNow % millisPerDay / millisPerMinute ≥ schedule.minuteOfLocalDay.toNat then
        localNow / millisPerDay
      else localNow / millisPerDay - 1 := by
  unfold TimeReviewSchedule.Invalid at valid
  simp only [TimeReviewSchedule.latestDay, millisPerDay, millisPerMinute]
  split_ifs <;> omega

/-- Where the local time is an `i64`, the code finds the latest day and the day after it. -/
theorem latestDay_found :
    let localNow := now.toInt + schedule.utcOffsetMinutes.toInt * millisPerMinute
    latestDueLocalDay (localNow / millisPerDay) (localNow % millisPerDay / millisPerMinute)
        schedule.minuteOfLocalDay.toNat = some (schedule.latestDay now.toInt) ∧
      nextLocalDay (localNow / millisPerDay) (localNow % millisPerDay / millisPerMinute)
        schedule.minuteOfLocalDay.toNat = some (schedule.latestDay now.toInt + 1) := by
  have bounds := latestDay_bounds valid
  intro localNow
  unfold latestDueLocalDay nextLocalDay
  have same := latestDay_eq valid
  simp only at same
  by_cases reached : localNow % millisPerDay / millisPerMinute ≥ schedule.minuteOfLocalDay.toNat
  · rw [if_pos reached] at same
    rw [if_pos reached, if_neg (not_lt.2 reached), same,
      checked64_eq_some (by rw [← same]; omega) (by rw [← same]; omega)]
    exact ⟨rfl, rfl⟩
  rw [if_neg reached] at same
  rw [if_neg reached, if_pos (not_le.1 reached), ← same,
    checked64_eq_some (by omega) (by omega), same]
  exact ⟨rfl, by rw [Int.sub_add_cancel]⟩

/-- The state of a valid schedule exists when the sums are in range, and it is the expected one. -/
theorem scheduleState_eq_some_iff (last : Option Int64) (result : TimeReviewScheduleState) :
    scheduleState schedule.minuteOfLocalDay.toNat schedule.utcOffsetMinutes.toInt now.toInt last =
        some result ↔ InRange schedule now last ∧
        schedule.stateAt (schedule.latestDay now.toInt) last = result := by
  have bounds := latestDay_bounds valid
  obtain ⟨found, foundNext⟩ := latestDay_found valid
  have inside := valid
  unfold TimeReviewSchedule.Invalid at inside
  have nowHigh := Int64.toInt_lt now
  have minute : schedule.minuteOfLocalDay.toNat ≤ 1439 := by omega
  have offsetMs : checked64 (schedule.utcOffsetMinutes.toInt * millisPerMinute) =
      some (schedule.utcOffsetMinutes.toInt * millisPerMinute) :=
    checked64_eq_some (by unfold millisPerMinute; omega) (by unfold millisPerMinute; omega)
  have notInvalid : InRange schedule now last ↔
      now.toInt + schedule.utcOffsetMinutes.toInt * millisPerMinute < 2 ^ 63 ∧
        ∀ completed ∈ last, schedule.latestDay now.toInt ≤ completed.toInt →
          (schedule.latestDay now.toInt + 1) * millisPerDay +
              schedule.minuteOfLocalDay.toNat * millisPerMinute < 2 ^ 63 ∧
            schedule.slot (schedule.latestDay now.toInt + 1) < 2 ^ 63 := by
    unfold InRange
    constructor
    · rintro (large | ⟨_, invalid | rest⟩)
      · omega
      · exact absurd invalid valid
      · exact rest
    exact fun rest => .inr ⟨by omega, .inr rest⟩
  rw [notInvalid]
  simp only [scheduleState, offsetMs, bind_eq_bind, bind_some]
  by_cases fits : now.toInt + schedule.utcOffsetMinutes.toInt * millisPerMinute < 2 ^ 63
  case neg =>
    rw [checked64, if_neg (fun range => fits range.2), bind_none]
    exact iff_of_false (fun none => by cases none) fun both => fits both.1.1
  case pos =>
    have latestSlot : dueInstant (schedule.latestDay now.toInt) schedule.minuteOfLocalDay.toNat
        (schedule.utcOffsetMinutes.toInt * millisPerMinute) =
          some (schedule.slot (schedule.latestDay now.toInt)) := by
      have due := (slot_le_iff schedule _ now.toInt).2 le_rfl
      refine (dueInstant_eq_some_iff minute ?_ (by omega) (by omega)).2 ⟨⟨?_, by omega⟩, rfl⟩
      · unfold millisPerDay millisPerMinute
        omega
      unfold TimeReviewSchedule.slot at due
      omega
    rw [checked64_eq_some (by unfold millisPerMinute; omega) fits]
    simp only [bind_some, found, foundNext, latestSlot]
    cases last with
    | none =>
      rw [Option.some.injEq]
      exact ⟨fun same => ⟨⟨fits, fun _ none => by cases none⟩, same⟩, And.right⟩
    | some completed =>
      simp only [mem_def, Option.some.injEq, forall_eq', TimeReviewSchedule.stateAt, fits, true_and]
      by_cases done : schedule.latestDay now.toInt ≤ completed.toInt
      · simp only [done, if_true, true_imp_iff, bind_eq_some_iff, Option.some.injEq]
        have next := @dueInstant_eq_some_iff schedule (schedule.latestDay now.toInt + 1)
        constructor
        · rintro ⟨instant, computed, rfl⟩
          have := (next minute (by unfold millisPerDay millisPerMinute; omega) (by omega)
            (by omega)).1 computed
          exact ⟨this.1, by rw [this.2]⟩
        rintro ⟨range, rfl⟩
        exact ⟨_, (next minute (by unfold millisPerDay millisPerMinute; omega) (by omega)
          (by omega)).2 ⟨range, rfl⟩, rfl⟩
      have gap : saturatingSub (schedule.latestDay now.toInt) completed.toInt > 1 ↔
          completed.toInt ≤ schedule.latestDay now.toInt - 2 := by
        unfold saturatingSub
        omega
      have low := Int64.le_toInt completed
      simp only [done, if_false, false_imp_iff, true_and, gap]
      by_cases behind : completed.toInt ≤ schedule.latestDay now.toInt - 2
      · rw [if_pos behind, if_pos behind, checked64_eq_some (by omega) (by omega),
          toU32OrMax_saturatingSub (by omega)]
        simp
      rw [if_neg behind, if_neg behind, Option.some.injEq]

end

end Valid

theorem timeReviewScheduleState_of_large (now : Int64)
    (last : Option Int64) (large : 1439 < schedule.minuteOfLocalDay.toNat) :
    timeReviewScheduleState schedule now last = some (.error .invalidSchedule) :=
  if_pos large

/-- Of a schedule that passes the check the state is computed. -/
theorem timeReviewScheduleState_of_small {now : Int64}
    (last : Option Int64) (small : ¬ 1439 < schedule.minuteOfLocalDay.toNat)
    (regular : schedule.utcOffsetMinutes.toInt ≠ -2 ^ 15) :
    timeReviewScheduleState schedule now last =
      if schedule.Invalid now then some (.error .invalidSchedule)
      else (scheduleState schedule.minuteOfLocalDay.toNat schedule.utcOffsetMinutes.toInt now.toInt
        last).map .ok := by
  have outside : |schedule.utcOffsetMinutes.toInt| > maxUtcOffsetMinutes ∨ now.toInt < 0 ↔
      schedule.Invalid now := by
    unfold TimeReviewSchedule.Invalid maxUtcOffsetMinutes
    rw [gt_iff_lt, lt_abs]
    omega
  rw [timeReviewScheduleState, if_neg (by omega), checkedAbs, if_neg regular]
  simp only [bind_eq_bind, bind_some, outside, map_eq_bind]
  rfl

/-- The state is the expected one exactly when no sum leaves its type. -/
theorem exact_iff (schedule : TimeReviewSchedule) (now : Int64) (last : Option Int64) :
    FollowsSchedule schedule now last ↔ InRange schedule now last := by
  unfold FollowsSchedule
  by_cases large : 1439 < schedule.minuteOfLocalDay.toNat
  · rw [if_pos (.inl large)]
    exact iff_of_true (timeReviewScheduleState_of_large now last large) (.inl large)
  by_cases regular : schedule.utcOffsetMinutes.toInt ≠ -2 ^ 15
  case neg =>
    have overflow : timeReviewScheduleState schedule now last = none := by
      rw [timeReviewScheduleState, if_neg (by omega), checkedAbs, if_pos (not_not.1 regular)]
      rfl
    have outside : ¬ InRange schedule now last := by
      rintro (large' | ⟨regular', _⟩)
      · exact large large'
      exact regular regular'
    rw [overflow]
    refine iff_of_false ?_ outside
    split
    · intro same
      cases same
    rintro ⟨_, _, same⟩
    cases same
  rw [timeReviewScheduleState_of_small last large regular]
  by_cases invalid : schedule.Invalid now
  · rw [if_pos invalid, if_pos invalid]
    exact iff_of_true rfl (.inr ⟨regular, .inl invalid⟩)
  rw [if_neg invalid, if_neg invalid]
  have spec := scheduleState_eq_some_iff invalid last
  constructor
  · rintro ⟨latest, _, same⟩
    obtain ⟨state, computed, _⟩ := map_eq_some_iff.1 same
    exact ((spec state).1 computed).1
  intro range
  refine ⟨_, isGreatest_latestDay schedule now.toInt, ?_⟩
  rw [(spec _).2 ⟨range, rfl⟩]
  rfl

/-- The schedule is followed exactly when no sum leaves its type, and a recorded day stays done. -/
theorem timeReviewScheduleState_exact_iff (schedule : TimeReviewSchedule) (nowUnixMs : Int64)
    (lastCompletedLocalDay : Option Int64) :
    (FollowsSchedule schedule nowUnixMs lastCompletedLocalDay ↔
        InRange schedule nowUnixMs lastCompletedLocalDay) ∧ StaysDone schedule nowUnixMs := by
  refine ⟨exact_iff schedule nowUnixMs lastCompletedLocalDay, ?_⟩
  intro completed later valid greatest after before range
  have same := (isGreatest_slot_iff schedule _ _).1 greatest
  have after := Int64.le_iff_toInt_le.1 after
  have stillValid : ¬ schedule.Invalid later := by
    unfold TimeReviewSchedule.Invalid at valid ⊢
    omega
  have stillLatest : schedule.latestDay later.toInt = completed.toInt := by
    have due := (slot_le_iff schedule completed.toInt later.toInt).1 (greatest.1.trans after)
    have notNext := mt (slot_le_iff schedule (completed.toInt + 1) later.toInt).2 (not_le.2 before)
    omega
  have followed := (exact_iff schedule later (some completed)).2 range
  rw [FollowsSchedule, if_neg stillValid] at followed
  obtain ⟨latest, isLatest, state⟩ := followed
  rw [(isGreatest_slot_iff schedule _ _).1 isLatest, stillLatest] at state
  rw [state, TimeReviewSchedule.stateAt, if_pos le_rfl]

/-- Fourteen hours ahead of UTC at the last time that an `i64` holds. -/
theorem timeReviewScheduleState_overflow_counterexample :
    ¬ FollowsSchedule { minuteOfLocalDay := 0, utcOffsetMinutes := 840 } Int64.maxValue none := by
  rw [exact_iff]
  unfold InRange
  decide

end Wts.TimeReview
