/-
Module: Wts.Proofs.Calendars
Purpose: When the reader of agent logs reads a valid time without overflow, and that the calendar
  routines agree.
Trusted boundary: none
Main exports: calendars_exact_iff
-/
import Wts.App.Calendars
import Wts.Proofs.TimeReviewSchedule

namespace Wts.Calendars

open List Text
open AgentObservation (parseI64 civilDays threeNumbers rfc3339ToUnixMs)
open TimeReview (checked64 checked64_eq_some_iff)

def TimeParts.texts (texts : TimeParts String) : List String :=
  [texts.year, texts.month, texts.day, texts.hour, texts.minute, texts.second, texts.fraction]

/-- Every part of a time is a number. -/
def DigitsOnly (texts : TimeParts String) : Prop :=
  ∀ text ∈ texts.texts, text.toList ≠ [] ∧ text.toList.all Char.isDigit = true

/-- The value of a decimal text. -/
def number (text : String) : ℕ :=
  Nat.ofDigitChars 10 text.toList 0

/-- The characters of a time in UTC, with what follows the seconds. -/
def TimeParts.chars (texts : TimeParts String) (tail : List Char) : List Char :=
  texts.year.toList ++ '-' :: texts.month.toList ++ '-' :: texts.day.toList ++
    'T' :: (texts.hour.toList ++ ':' :: texts.minute.toList ++ ':' :: texts.second.toList ++ tail) ++ ['Z']

/-- The text is the time; without a fraction the fraction is zero. -/
def Written (texts : TimeParts String) (value : String) : Prop :=
  ∃ tail, (tail = '.' :: texts.fraction.toList ∨ tail = [] ∧ texts.fraction = "0") ∧
    value.toList = texts.chars tail

/-- The text is a time in UTC of the proleptic Gregorian calendar. -/
def ValidUtc (value : String) : Prop :=
  ∃ texts, Written texts value ∧ DigitsOnly texts ∧
    1 ≤ number texts.month ∧ number texts.month ≤ 12 ∧ 1 ≤ number texts.day ∧
      (number texts.day : ℤ) ≤ daysInMonth (number texts.year) (number texts.month) ∧
      number texts.hour ≤ 23 ∧ number texts.minute ≤ 59 ∧ number texts.second ≤ 59

/-- Every operation of the arithmetic has a value of 64 bits. -/
def Completes (value : String) : Prop :=
  ∀ numbers, (cutTime value).bind readTime = some numbers →
    ∀ result ∈ arithmetic numbers, -2 ^ 63 ≤ result ∧ result < 2 ^ 63

/-- The time is not after the last one whose milliseconds fit in 64 bits. -/
def InReach (n : TimeParts ℤ) : Prop :=
  n.year < 292278994 ∨ n.year = 292278994 ∧ (n.month < 8 ∨ n.month = 8 ∧ (n.day < 17 ∨
    n.day = 17 ∧ (n.hour * 3600 + n.minute * 60 + n.second) * 1000 + n.fraction ≤ 25975807))

/-- What the checks of `rfc3339_to_unix_ms` leave out. -/
def Plain (value : String) : Prop :=
  ∀ texts numbers, cutTime value = some texts → readTime texts = some numbers →
    DigitsOnly texts ∧ numbers.day ≤ daysInMonth numbers.year numbers.month ∧ numbers.second ≤ 59 ∧
      InReach numbers

/-! ### The texts -/

variable {text value fraction : String}

theorem splitOnce_eq_some_iff {separator : Char} {before after : String} :
    splitOnce separator text = some (before, after) ↔
      text.toList = before.toList ++ separator :: after.toList ∧ separator ∉ before.toList := by
  rw [splitOnce]
  constructor
  · intro found
    split at found
    · rename_i inside
      cases found
      simp only [String.toList_ofList]
      refine ⟨?_, fun early => by simpa using mem_takeWhile_imp early⟩
      have left : text.toList.dropWhile (· ≠ separator) ≠ [] := by
        intro none
        simpa using dropWhile_eq_nil_iff.1 none separator inside
      have first : (text.toList.dropWhile (· ≠ separator)).head left = separator := by
        simpa using head_dropWhile_not (· ≠ separator) left
      have parts := @takeWhile_append_dropWhile _ (· ≠ separator) text.toList
      rw [← cons_head_tail left, first] at parts
      rw [drop_one, parts]
    cases found
  rintro ⟨whole, absent⟩
  have plain : ∀ c ∈ before.toList, (decide (c ≠ separator)) = true := by
    intro c inside
    exact decide_eq_true fun same => absent (same ▸ inside)
  rw [whole, if_pos (by simp), takeWhile_append_of_pos plain, dropWhile_append_of_pos plain]
  simp

theorem rfc3339ToUnixMs_eq (value : String) :
    rfc3339ToUnixMs value = ((cutTime value).bind readTime).map unixMs := by
  rw [rfc3339ToUnixMs, cutTime]
  split
  case isFalse => rfl
  case isTrue =>
  simp only [Option.bind_eq_bind, Option.bind_some, threeNumbers]
  rcases splitOnce 'T' (String.ofList value.toList.dropLast) with _ | ⟨date, time⟩
  · rfl
  rcases hd : splitOnce '-' date with _ | ⟨year, rest⟩
  · simp [hd]
  rcases hm : splitOnce '-' rest with _ | ⟨month, day⟩
  · simp [hd, hm]
  simp only [hd, hm, Option.bind_some]
  generalize (splitOnce '.' time).getD (time, "0") = cut
  obtain ⟨clock, fraction⟩ := cut
  rcases splitOnce ':' clock with _ | ⟨hour, others⟩
  · cases parseI64 year <;> cases parseI64 month <;> cases parseI64 day <;> simp
  rcases hs : splitOnce ':' others with _ | ⟨minute, second⟩
  · cases parseI64 year <;> cases parseI64 month <;> cases parseI64 day <;> simp [hs]
  simp only [hs, Option.bind_some, readTime, Option.bind_eq_bind]
  cases parseI64 year <;> cases parseI64 month <;> cases parseI64 day <;> try rfl
  cases parseI64 hour <;> cases parseI64 minute <;> cases parseI64 second <;> try rfl
  simp only [Option.bind_some]
  split
  · rw [milliDigits]
    cases parseI64 _ <;> rfl
  rfl

variable {texts : TimeParts String}

theorem cutTime_written (cut : cutTime value = some texts) : Written texts value := by
  rw [cutTime] at cut
  split at cut
  case isFalse => cases cut
  case isTrue ends =>
  have whole : value.toList.dropLast ++ ['Z'] = value.toList := by
    obtain ⟨front, last⟩ := isSuffixOf_iff_suffix.1 ends
    rw [← last]
    simp
  simp only [Option.bind_eq_bind, Option.bind_some, Option.bind_eq_some_iff, Prod.exists,
    splitOnce_eq_some_iff, String.toList_ofList] at cut
  obtain ⟨date, time, ⟨atT, -⟩, year, rest, ⟨isDate, -⟩, month, day, ⟨isRest, -⟩, cut⟩ := cut
  rcases found : splitOnce '.' time with _ | ⟨clock, fraction⟩
  · simp only [found, Option.getD_none, Option.some.injEq] at cut
    obtain ⟨hour, others, ⟨isTime, -⟩, minute, second, ⟨isClock, -⟩, rfl⟩ := cut
    refine ⟨[], .inr ⟨rfl, rfl⟩, ?_⟩
    rw [← whole, atT, isDate, isRest, isTime, isClock]
    simp [TimeParts.chars]
  simp only [found, Option.getD_some, Option.some.injEq] at cut
  obtain ⟨hour, others, ⟨isClock, -⟩, minute, second, ⟨isOthers, -⟩, rfl⟩ := cut
  refine ⟨'.' :: fraction.toList, .inl rfl, ?_⟩
  rw [← whole, atT, isDate, isRest, (splitOnce_eq_some_iff.1 found).1, isClock, isOthers]
  simp [TimeParts.chars]

theorem Written.cut (written : Written texts value)
    (digits : DigitsOnly texts) : cutTime value = some texts := by
  obtain ⟨tail, isTail, whole⟩ := written
  have absent : ∀ text ∈ texts.texts, ∀ c, c.isDigit = false → c ∉ text.toList := by
    intro text listed c other inside
    exact absurd (all_eq_true.1 (digits text listed).2 c inside) (by simp [other])
  simp only [TimeParts.texts, forall_mem_cons] at absent
  obtain ⟨year, month, day, hour, minute, second, -⟩ := absent
  rw [TimeParts.chars] at whole
  generalize isClock : texts.hour.toList ++ ':' :: texts.minute.toList ++ ':' :: texts.second.toList =
    clock at whole
  have atT : splitOnce 'T' (String.ofList value.toList.dropLast) =
      some (String.ofList (texts.year.toList ++ '-' :: texts.month.toList ++ '-' :: texts.day.toList),
        String.ofList (clock ++ tail)) := by
    rw [splitOnce_eq_some_iff, whole, dropLast_concat]
    simp [year, month, day]
  have atDate : splitOnce '-' (String.ofList
      (texts.year.toList ++ '-' :: texts.month.toList ++ '-' :: texts.day.toList)) =
      some (texts.year, String.ofList (texts.month.toList ++ '-' :: texts.day.toList)) := by
    simp [splitOnce_eq_some_iff, year]
  have atMonth : splitOnce '-' (String.ofList (texts.month.toList ++ '-' :: texts.day.toList)) =
      some (texts.month, texts.day) := by
    simp [splitOnce_eq_some_iff, month]
  have atTime : (splitOnce '.' (String.ofList (clock ++ tail))).getD
      (String.ofList (clock ++ tail), "0") = (String.ofList clock, texts.fraction) := by
    have plain : '.' ∉ clock := by
      simp [← isClock, hour, minute, second]
    rcases isTail with rfl | ⟨rfl, zero⟩
    · have cutAt : splitOnce '.' (String.ofList (clock ++ '.' :: texts.fraction.toList)) =
          some (String.ofList clock, texts.fraction) := by
        simp [splitOnce_eq_some_iff, plain]
      rw [cutAt]
      rfl
    rw [append_nil, splitOnce, String.toList_ofList, if_neg plain, zero]
    rfl
  have atClock : splitOnce ':' (String.ofList clock) =
      some (texts.hour, String.ofList (texts.minute.toList ++ ':' :: texts.second.toList)) := by
    simp [splitOnce_eq_some_iff, ← isClock, hour]
  have atMinute : splitOnce ':' (String.ofList (texts.minute.toList ++ ':' :: texts.second.toList)) =
      some (texts.minute, texts.second) := by
    simp [splitOnce_eq_some_iff, minute]
  have ends : endsWith "Z" value = true := by
    rw [endsWith, whole]
    exact isSuffixOf_iff_suffix.2 (suffix_append _ _)
  simp only [cutTime, if_pos ends, Option.bind_eq_bind, Option.bind_some, atT, atDate, atMonth, atTime,
    atClock, atMinute]

theorem parseI64_eq_some {n : ℤ} (digits : text.toList.all Char.isDigit = true)
    (read : parseI64 text = some n) : n = number text := by
  rw [parseI64] at read
  split at read
  case h_1 whole => simp [whole] at digits
  case h_2 whole => simp [whole] at digits
  case h_3 =>
  simp only [Option.bind_eq_some_iff, Option.ite_none_right_eq_some] at read
  obtain ⟨_, ⟨-, found⟩, -, same⟩ := read
  rw [← Option.some.inj same, ← Option.some.inj found, number]

theorem milliDigits_digits (digits : fraction.toList.all Char.isDigit = true) :
    (milliDigits fraction).toList.all Char.isDigit = true := by
  rw [all_eq_true] at digits ⊢
  intro c inside
  rw [milliDigits, String.toList_ofList] at inside
  rcases mem_append.1 (mem_of_mem_take inside) with own | zero
  · exact digits c own
  rw [(mem_replicate.1 zero).2]
  decide

variable {n : TimeParts ℤ}

theorem readTime_eq_some (digits : DigitsOnly texts) (read : readTime texts = some n) :
    n = ⟨number texts.year, number texts.month, number texts.day, number texts.hour,
      number texts.minute, number texts.second, number (milliDigits texts.fraction)⟩ ∧
      1 ≤ n.month ∧ n.month ≤ 12 ∧ 1 ≤ n.day ∧ n.day ≤ 31 ∧ n.hour ≤ 23 ∧ n.minute ≤ 59 := by
  simp only [DigitsOnly, TimeParts.texts, forall_mem_cons] at digits
  obtain ⟨year, month, day, hour, minute, second, fraction, -⟩ := digits
  simp only [readTime, Option.bind_eq_bind, Option.bind_eq_some_iff,
    Option.ite_none_right_eq_some] at read
  obtain ⟨y, isYear, mo, isMonth, d, isDay, h, isHour, mi, isMinute, s, isSecond, range, f, isFraction,
    same⟩ := read
  obtain rfl := Option.some.inj same
  refine ⟨?_, range.1, range.2.1, range.2.2.1, range.2.2.2.1, range.2.2.2.2.1, range.2.2.2.2.2.1⟩
  rw [parseI64_eq_some year.2 isYear, parseI64_eq_some month.2 isMonth, parseI64_eq_some day.2 isDay,
    parseI64_eq_some hour.2 isHour, parseI64_eq_some minute.2 isMinute,
    parseI64_eq_some second.2 isSecond, parseI64_eq_some (milliDigits_digits fraction.2) isFraction]

theorem unixMs_mem (n : TimeParts ℤ) : unixMs n ∈ arithmetic n := by
  simp only [arithmetic, mem_cons]
  iterate 26 right
  left
  rfl

structure InRange (n : TimeParts ℤ) : Prop where
  year : 0 ≤ n.year
  month : 1 ≤ n.month ∧ n.month ≤ 12
  day : 1 ≤ n.day ∧ n.day ≤ 31
  hour : 0 ≤ n.hour ∧ n.hour ≤ 23
  minute : 0 ≤ n.minute ∧ n.minute ≤ 59
  second : 0 ≤ n.second ∧ n.second ≤ 59
  fraction : 0 ≤ n.fraction ∧ n.fraction ≤ 999

theorem unixMs_lt_iff (range : InRange n) : unixMs n < 2 ^ 63 ↔ InReach n := by
  obtain ⟨year, month, day, hour, minute, second, fraction⟩ := range
  obtain ⟨y, mo, d, h, mi, s, f⟩ := n
  simp only [unixMs, civilDays, InReach] at *
  generalize clock : h * 3600 + mi * 60 + s = seconds
  have low : 0 ≤ seconds := by omega
  have high : seconds ≤ 86399 := by omega
  obtain ⟨first, last⟩ := month
  interval_cases mo <;> simp <;> omega

theorem arithmetic_fits (range : InRange n) (fits : unixMs n < 2 ^ 63) :
    ∀ result ∈ arithmetic n, -2 ^ 63 ≤ result ∧ result < 2 ^ 63 := by
  obtain ⟨year, month, day, hour, minute, second, fraction⟩ := range
  obtain ⟨y, mo, d, h, mi, s, f⟩ := n
  simp only [unixMs, civilDays, arithmetic] at *
  by_cases early : mo ≤ 2
  · simp only [early, if_true, forall_mem_cons, not_mem_nil, false_imp_iff, implies_true,
      and_true] at fits ⊢
    omega
  simp only [early, if_false, forall_mem_cons, not_mem_nil, false_imp_iff, implies_true,
    and_true] at fits ⊢
  omega

theorem parseDigits_eq_some {digits : List Char} {n : ℕ} (read : parseDigits digits = some n) :
    digits ≠ [] ∧ digits.all Char.isDigit = true ∧ n = Nat.ofDigitChars 10 digits 0 := by
  rw [parseDigits] at read
  split at read
  · rename_i good
    exact ⟨good.1, good.2.1, (Option.some.inj read).symm⟩
  cases read

theorem number_milliDigits {fraction : List Char} (left : fraction ≠ []) :
    (fraction[0]?.elim 0 fun c => ((c.toNat - 48 : ℕ) : ℤ)) * 100 +
        (fraction[1]?.elim 0 fun c => ((c.toNat - 48 : ℕ) : ℤ)) * 10 +
        (fraction[2]?.elim 0 fun c => ((c.toNat - 48 : ℕ) : ℤ)) =
      number (milliDigits (String.ofList fraction)) := by
  rcases fraction with _ | ⟨a, _ | ⟨b, _ | ⟨c, rest⟩⟩⟩
  · exact absurd rfl left
  all_goals
    simp [number, milliDigits, Nat.ofDigitChars_cons, replicate_succ]
    try omega

variable {rest : List Char}

theorem readFraction_eq_some {after : List Char} {millis : ℤ}
    (read : readFraction rest = some (millis, after)) :
    ∃ fraction, fraction.toList ≠ [] ∧ fraction.toList.all Char.isDigit = true ∧
      millis = number (milliDigits fraction) ∧
      (rest = '.' :: fraction.toList ++ after ∨ rest = after ∧ fraction = "0") := by
  rw [readFraction.eq_def] at read
  split at read
  · rename_i others
    dsimp only at read
    split at read
    · cases read
    rename_i left
    obtain ⟨rfl, rfl⟩ := Prod.mk.inj (Option.some.inj read)
    refine ⟨String.ofList (others.takeWhile Char.isDigit), by simpa using left, ?_,
      number_milliDigits left, .inl ?_⟩
    · simp [all_takeWhile]
    simp
  obtain ⟨rfl, rfl⟩ := Prod.mk.inj (Option.some.inj read)
  exact ⟨"0", by decide, by decide, by decide, .inr ⟨rfl, rfl⟩⟩

theorem readOffset_eq_some {offset : ℤ} (read : readOffset rest = some offset) :
    'T' ∉ rest ∧ (rest.getLast? = some 'Z' → rest = ['Z'] ∧ offset = 0) := by
  rw [readOffset.eq_def] at read
  split at read
  · exact ⟨by decide, fun _ => ⟨rfl, (Option.some.inj read).symm⟩⟩
  · exact ⟨by decide, fun last => absurd last (by decide)⟩
  · rename_i sign hour hour' minute minute'
    split at read
    case isFalse => cases read
    case isTrue isSign =>
    simp only [Option.bind_eq_bind, Option.bind_eq_some_iff] at read
    obtain ⟨hours, isHours, minutes, isMinutes, -⟩ := read
    have hourDigits := (parseDigits_eq_some isHours).2.1
    have minuteDigits := (parseDigits_eq_some isMinutes).2.1
    simp only [all_cons, all_nil, Bool.and_true, Bool.and_eq_true] at hourDigits minuteDigits
    have differs : ∀ c : Char, c.isDigit = true → 'T' ≠ c := by
      rintro c digit rfl
      cases digit
    have signDiffers : 'T' ≠ sign := by
      rcases isSign with rfl | rfl <;> decide
    refine ⟨by simp [differs _ hourDigits.1, differs _ hourDigits.2, differs _ minuteDigits.1,
      differs _ minuteDigits.2, signDiffers], fun last => ?_⟩
    obtain rfl := Option.some.inj last
    cases minuteDigits.2
  cases read

theorem daysFromCivil_eq (year month day : ℤ) :
    daysFromCivil year month day = civilDays year month day := by
  simp only [daysFromCivil, civilDays]
  by_cases early : month ≤ 2
  · simp [early, Int.not_lt.2 early]
  simp [early, Int.not_le.1 early, Int.sub_eq_add_neg]

theorem drop_eq_cons {chars : List Char} {position : ℕ} {c : Char} (found : chars[position]? = some c) :
    chars.drop position = c :: chars.drop (position + 1) := by
  obtain ⟨inside, rfl⟩ := List.getElem?_eq_some_iff.1 found
  exact drop_eq_getElem_cons inside

theorem drop_eq_append (chars : List Char) (position count : ℕ) :
    chars.drop position = (chars.drop position).take count ++ chars.drop (position + count) := by
  rw [← drop_drop, take_append_drop]

variable {other ms : ℤ}

theorem parse_eq_some (parsed : parseRfc3339Milliseconds value = some other)
    (inside : 'T' ∈ value.toList) (ends : value.toList.getLast? = some 'Z') :
    ∃ texts, Written texts value ∧ DigitsOnly texts ∧
      other = unixMs ⟨number texts.year, number texts.month, number texts.day, number texts.hour,
        number texts.minute, number texts.second, number (milliDigits texts.fraction)⟩ := by
  rw [parseRfc3339Milliseconds] at parsed
  split at parsed
  case isTrue => cases parsed
  case isFalse shape =>
  simp only [not_or, ne_eq, not_not] at shape
  obtain ⟨-, dash, dash', isSeparator, colon, colon'⟩ := shape
  generalize whole : value.toList = bytes at *
  simp only [Option.bind_eq_bind, Option.bind_eq_some_iff, Option.ite_none_right_eq_some,
    checked64_eq_some_iff, Prod.exists] at parsed
  obtain ⟨year, isYear, month, isMonth, day, isDay, hour, isHour, minute, isMinute, second, isSecond, -,
    millis, after, isFraction, offset, isOffset, _, ⟨-, rfl⟩, _, ⟨-, rfl⟩, _, ⟨-, rfl⟩, _, ⟨-, rfl⟩, -,
    rfl⟩ := parsed
  obtain ⟨yearLeft, yearDigits, rfl⟩ := parseDigits_eq_some isYear
  obtain ⟨monthLeft, monthDigits, rfl⟩ := parseDigits_eq_some isMonth
  obtain ⟨dayLeft, dayDigits, rfl⟩ := parseDigits_eq_some isDay
  obtain ⟨hourLeft, hourDigits, rfl⟩ := parseDigits_eq_some isHour
  obtain ⟨minuteLeft, minuteDigits, rfl⟩ := parseDigits_eq_some isMinute
  obtain ⟨secondLeft, secondDigits, rfl⟩ := parseDigits_eq_some isSecond
  obtain ⟨fraction, fractionLeft, fractionDigits, rfl, isRest⟩ := readFraction_eq_some isFraction
  obtain ⟨noT, onlyZ⟩ := readOffset_eq_some isOffset
  obtain ⟨separator, isSeparator⟩ : ∃ separator, bytes[10]? = some separator := by
    simp only [mem_cons, not_mem_nil, or_false] at isSeparator
    rcases isSeparator with found | found | found <;> exact ⟨_, found⟩
  have parts : bytes = bytes.take 4 ++ '-' :: ((bytes.drop 5).take 2 ++ '-' :: ((bytes.drop 8).take 2 ++
      separator :: ((bytes.drop 11).take 2 ++ ':' :: ((bytes.drop 14).take 2 ++
        ':' :: ((bytes.drop 17).take 2 ++ bytes.drop 19))))) := by
    rw [← drop_eq_append bytes 17 2, ← drop_eq_cons colon', ← drop_eq_append bytes 14 2,
      ← drop_eq_cons colon, ← drop_eq_append bytes 11 2, ← drop_eq_cons isSeparator,
      ← drop_eq_append bytes 8 2, ← drop_eq_cons dash', ← drop_eq_append bytes 5 2,
      ← drop_eq_cons dash, take_append_drop]
  obtain ⟨rfl, rfl⟩ : after = ['Z'] ∧ offset = 0 := by
    apply onlyZ
    obtain ⟨front, isFront⟩ : ∃ front, bytes = front ++ after := by
      have cut := (take_append_drop 19 bytes).symm
      rcases isRest with dot | ⟨same, -⟩
      · exact ⟨bytes.take 19 ++ '.' :: fraction.toList, by simpa [dot] using cut⟩
      exact ⟨bytes.take 19, by rwa [same] at cut⟩
    have left : after ≠ [] := by
      rintro rfl
      cases isOffset
    rwa [isFront, getLast?_append_of_ne_nil _ left] at ends
  have noDigit : ∀ digits : List Char, digits.all Char.isDigit = true → 'T' ∉ digits := by
    intro digits all listed
    cases all_eq_true.1 all 'T' listed
  have isT : separator = 'T' := by
    have rest : 'T' ∉ bytes.drop 19 := by
      rcases isRest with dot | ⟨same, -⟩
      · simp [dot, noDigit _ fractionDigits]
      rwa [same]
    rw [parts] at inside
    simpa [noDigit _ yearDigits, noDigit _ monthDigits, noDigit _ dayDigits, noDigit _ hourDigits,
      noDigit _ minuteDigits, noDigit _ secondDigits, rest, eq_comm] using inside
  subst isT
  refine ⟨⟨.ofList (bytes.take 4), .ofList ((bytes.drop 5).take 2), .ofList ((bytes.drop 8).take 2),
    .ofList ((bytes.drop 11).take 2), .ofList ((bytes.drop 14).take 2), .ofList ((bytes.drop 17).take 2),
    fraction⟩, ?_, ?_, ?_⟩
  · simp only [Written, TimeParts.chars, String.toList_ofList, whole]
    rcases isRest with dot | ⟨same, zero⟩
    · refine ⟨'.' :: fraction.toList, .inl rfl, ?_⟩
      rw [dot] at parts
      simpa using parts
    refine ⟨[], .inr ⟨rfl, zero⟩, ?_⟩
    rw [same] at parts
    simpa using parts
  · simp only [DigitsOnly, TimeParts.texts, forall_mem_cons, String.toList_ofList]
    exact ⟨⟨yearLeft, yearDigits⟩, ⟨monthLeft, monthDigits⟩, ⟨dayLeft, dayDigits⟩,
      ⟨hourLeft, hourDigits⟩, ⟨minuteLeft, minuteDigits⟩, ⟨secondLeft, secondDigits⟩,
      ⟨fractionLeft, fractionDigits⟩, by simp⟩
  simp only [unixMs, number, String.toList_ofList, daysFromCivil_eq]
  omega

theorem parsers_agree (read : rfc3339ToUnixMs value = some ms)
    (parsed : parseRfc3339Milliseconds value = some other) : ms = other := by
  rw [rfc3339ToUnixMs_eq, Option.map_eq_some_iff] at read
  obtain ⟨numbers, isRead, rfl⟩ := read
  obtain ⟨texts, cut, isRead⟩ := Option.bind_eq_some_iff.1 isRead
  obtain ⟨tail, -, whole⟩ := cutTime_written cut
  obtain ⟨others, written, digits, rfl⟩ :=
    parse_eq_some parsed (by simp [whole, TimeParts.chars])
      (by rw [whole, TimeParts.chars, getLast?_concat])
  obtain rfl := Option.some.inj ((written.cut digits).symm.trans cut)
  rw [(readTime_eq_some digits isRead).1]

theorem notMem_dateText (date : ℤ × ℤ × ℤ) : 'T' ∉ (dateText date).toList := by
  have plain : ∀ width n, 'T' ∉ (padded width n).toList := by
    intro width n inside
    rw [padded, String.toList_ofList] at inside
    rcases mem_append.1 inside with zero | digit
    · cases (mem_replicate.1 zero).2
    cases Nat.isDigit_of_mem_toDigits (by decide) (by decide) digit
  have signed : ∀ width n, 'T' ∉ (paddedInt width n).toList := by
    intro width n
    rw [paddedInt]
    split <;> simp [plain]
  simp [dateText, signed]

theorem utcDate_eq (nonneg : 0 ≤ ms) :
    ((unixMillisecondsToRfc3339 ms).bind (splitOnce 'T')).map Prod.fst = some (utcDateForUnixMs ms) := by
  have same : utcDateForUnixMs ms = dateText (civilFromDays (ms / 1000 / 86400)) := by
    have days : ms / 86400000 = ms / 1000 / 86400 := by omega
    simp only [utcDateForUnixMs, civilFromDays, days]
    rw [if_pos (by omega), Int.tdiv_eq_ediv_of_nonneg (by omega)]
  have cut : ∀ rest, splitOnce 'T' (utcDateForUnixMs ms ++ ("T" ++ rest)) =
      some (utcDateForUnixMs ms, rest) := by
    intro rest
    rw [splitOnce_eq_some_iff]
    exact ⟨by simp, notMem_dateText _⟩
  simp only [unixMillisecondsToRfc3339, if_neg (Int.not_lt.2 nonneg), ← same, String.append_assoc,
    Option.bind_some, cut, Option.map_some]

theorem number_milliDigits_le (left : fraction.toList ≠ [])
    (digits : fraction.toList.all Char.isDigit = true) : (number (milliDigits fraction) : ℤ) ≤ 999 := by
  have place : ∀ i : ℕ, (fraction.toList[i]?.elim 0 fun c => ((c.toNat - 48 : ℕ) : ℤ)) ≤ 9 := by
    intro i
    cases found : fraction.toList[i]? with
    | none => decide
    | some c =>
      have digit := all_eq_true.1 digits c (mem_of_getElem? found)
      have range : 48 ≤ c.toNat ∧ c.toNat ≤ 57 := by
        simpa [Char.isDigit, UInt32.le_iff_toNat_le] using digit
      simp only [Option.elim_some]
      omega
  have value := number_milliDigits left
  rw [String.ofList_toList] at value
  have first := place 0
  have second := place 1
  have third := place 2
  omega

theorem inRange_of_read (digits : DigitsOnly texts)
    (read : readTime texts = some n) (second : n.second ≤ 59) : InRange n := by
  obtain ⟨same, low, high, first, last, hour, minute⟩ := readTime_eq_some digits read
  have bound := digits texts.fraction (by simp [TimeParts.texts])
  have millis := number_milliDigits_le bound.1 bound.2
  subst same
  exact
    { year := Int.natCast_nonneg _
      month := ⟨low, high⟩
      day := ⟨first, last⟩
      hour := ⟨Int.natCast_nonneg _, hour⟩
      minute := ⟨Int.natCast_nonneg _, minute⟩
      second := ⟨Int.natCast_nonneg _, second⟩
      fraction := ⟨Int.natCast_nonneg _, millis⟩ }

theorem plain_of_valid (completes : Completes value)
    (valid : ∀ ms, rfc3339ToUnixMs value = some ms → ValidUtc value) : Plain value := by
  intro texts numbers cut read
  have found : (cutTime value).bind readTime = some numbers := by
    rw [cut, Option.bind_some, read]
  obtain ⟨others, written, digits, -, -, -, day, -, -, second⟩ :=
    valid (unixMs numbers) (by rw [rfc3339ToUnixMs_eq, found]; rfl)
  obtain rfl := Option.some.inj ((written.cut digits).symm.trans cut)
  have isSecond : numbers.second ≤ 59 := by
    rw [(readTime_eq_some digits read).1]
    exact Int.ofNat_le.2 second
  refine ⟨digits, ?_, isSecond, ?_⟩
  · rwa [(readTime_eq_some digits read).1]
  exact (unixMs_lt_iff (inRange_of_read digits read isSecond)).1
    (completes numbers found _ (unixMs_mem numbers)).2

theorem valid_of_plain (plain : Plain value) :
    Completes value ∧ ∀ ms, rfc3339ToUnixMs value = some ms → ValidUtc value := by
  constructor
  · intro numbers found
    obtain ⟨texts, cut, read⟩ := Option.bind_eq_some_iff.1 found
    obtain ⟨digits, -, second, reach⟩ := plain texts numbers cut read
    have range := inRange_of_read digits read second
    exact arithmetic_fits range ((unixMs_lt_iff range).2 reach)
  intro ms found
  rw [rfc3339ToUnixMs_eq, Option.map_eq_some_iff] at found
  obtain ⟨numbers, found, -⟩ := found
  obtain ⟨texts, cut, read⟩ := Option.bind_eq_some_iff.1 found
  obtain ⟨digits, day, second, -⟩ := plain texts numbers cut read
  obtain ⟨rfl, low, high, first, -, hour, minute⟩ := readTime_eq_some digits read
  exact ⟨texts, cutTime_written cut, digits, Int.ofNat_le.1 low, Int.ofNat_le.1 high,
    Int.ofNat_le.1 first, day, Int.ofNat_le.1 hour, Int.ofNat_le.1 minute, Int.ofNat_le.1 second⟩

/-- Exactly on the plain times the arithmetic of the log reader does not overflow, what it accepts is a
valid UTC time, and it agrees with the other reader. The dates always agree. -/
theorem calendars_exact_iff (value : String) :
    ((Completes value ∧ (∀ ms, rfc3339ToUnixMs value = some ms → ValidUtc value) ∧
        ∀ ms other, rfc3339ToUnixMs value = some ms → parseRfc3339Milliseconds value = some other →
          ms = other) ↔ Plain value) ∧ ∀ ms, 0 ≤ ms → ms ≤ 253402300799999 →
      ((unixMillisecondsToRfc3339 ms).bind (splitOnce 'T')).map Prod.fst =
        some (utcDateForUnixMs ms) := by
  refine ⟨⟨?_, ?_⟩, fun ms nonneg _ => utcDate_eq nonneg⟩
  · rintro ⟨completes, valid, -⟩
    exact plain_of_valid completes valid
  · intro plain
    obtain ⟨completes, valid⟩ := valid_of_plain plain
    exact ⟨completes, valid, fun _ _ => parsers_agree⟩

def lastOfFebruary : TimeParts String where
  year := .ofList ['2', '0', '2', '6']
  month := .ofList ['0', '2']
  day := .ofList ['3', '1']
  hour := .ofList ['0', '5']
  minute := .ofList ['5', '7']
  second := .ofList ['0', '2']
  fraction := .ofList ['6', '7', '7']

theorem invalid_day_read :
    ¬ ∀ value, Completes value ∧ (∀ ms, rfc3339ToUnixMs value = some ms → ValidUtc value) ∧
      ∀ ms other, rfc3339ToUnixMs value = some ms → parseRfc3339Milliseconds value = some other →
        ms = other := by
  intro always
  obtain ⟨completes, valid, -⟩ :=
    always (.ofList (lastOfFebruary.chars ('.' :: lastOfFebruary.fraction.toList)))
  have digits : DigitsOnly lastOfFebruary := by
    simp only [DigitsOnly, TimeParts.texts, lastOfFebruary, forall_mem_cons, String.toList_ofList]
    decide
  have written : Written lastOfFebruary
      (.ofList (lastOfFebruary.chars ('.' :: lastOfFebruary.fraction.toList))) :=
    ⟨_, .inl rfl, String.toList_ofList⟩
  have parse : ∀ digits : List Char, digits ≠ [] → digits.all Char.isDigit = true →
      Nat.ofDigitChars 10 digits 0 < 2 ^ 63 →
        parseI64 (.ofList digits) = some (Nat.ofDigitChars 10 digits 0 : ℤ) := by
    intro digits left all small
    rw [parseI64, String.toList_ofList]
    split
    · cases all
    · cases all
    · simp [left, all]
      omega
  have read : readTime lastOfFebruary = some ⟨2026, 2, 31, 5, 57, 2, 677⟩ := by
    simp (disch := decide) only [readTime, lastOfFebruary, milliDigits, String.toList_ofList, parse,
      Option.bind_eq_bind, Option.bind_some]
    rw [if_pos (by decide)]
    rfl
  exact absurd (plain_of_valid completes valid _ _ (written.cut digits) read).2.1 (by decide)

end Wts.Calendars
