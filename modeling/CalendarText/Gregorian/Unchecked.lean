import CalendarText.Number
import CalendarText.Gregorian
import CalendarText.Slots

/-! Calendar arithmetic on data that may not be whole numbers. The formulas are those of the calendar
and hold for numbers with a fraction too; months alone must be whole, since they are looked up.
The parts are looked at in the order in which the formulas use them, which decides between two
possible failures. -/

namespace CalendarText.Gregorian.Unchecked

/-- The remainder of a datum by a positive integer. A text is filled in with the integer instead. -/
def remainder (d : Datum) (n : Nat) : Outcome Datum :=
  match d with
  | .text t => do return .text (← fillSlots t n)
  | d => do return ((← d.toNumber).remainder n).toDatum

def isLeap (year : Datum) : Outcome Bool := do
  if !(← remainder year 4).sameScalar (.ofInt 0) then return false
  if !(← remainder year 100).sameScalar (.ofInt 0) then return true
  return (← remainder year 400).sameScalar (.ofInt 0)

/-- Only February looks at the year. -/
def daysInMonth (year month : Datum) : Outcome Int := do
  let m ← month.toNumber
  if m.lt (.whole 1) || (Number.whole 12).lt m then .error (Failure.noSuchMonth month).raised
  else
    let isLong ← if m.same (.whole 2) then isLeap year else pure false
    if isLong then return 29
    else
      match m with
      | .whole m =>
        match atPosition? monthLengths m with
        | some days => return days
        | none => .error .noEntry
      | .real _ => .error .wrongKind

/-- Months up to February do not look at the year. -/
def daysBeforeMonth (year month : Datum) : Outcome Int := do
  let m ← month.toWhole
  match atPosition? daysBeforeMonths m with
  | none => .error .noEntry
  | some days =>
    let isLong ← if 2 < m then isLeap year else pure false
    return if isLong then days + 1 else days

def daysBeforeYear (year : Number) : Outcome Number := do
  let y ← year.sub (.whole 1)
  let common ← y.mul (.whole 365)
  let quarters ← common.add (y.quotient 4)
  let centuries ← quarters.sub (y.quotient 100)
  centuries.add (y.quotient 400)

def ordinalNumber (year month day : Datum) : Outcome Number := do
  let before ← daysBeforeYear (← year.toNumber)
  let first ← before.add (.whole (← daysBeforeMonth year month))
  first.add (← day.toNumber)

def ordinal (year month day : Datum) : Outcome Datum := do
  return (← ordinalNumber year month day).toDatum

def dayOfYear (year month day : Datum) : Outcome Datum := do
  let before ← daysBeforeMonth year month
  return (← (Number.whole before).add (← day.toNumber)).toDatum

def dayOfWeek (year month day : Datum) : Outcome Datum := do
  let sinceMonday ← (← ordinalNumber year month day).sub (.whole 1)
  return (← (sinceMonday.remainder 7).add (.whole 1)).toDatum

def quarter (month : Datum) : Outcome Datum := do
  let before ← (← month.toNumber).sub (.whole 1)
  return (← (before.quotient 3).add (.whole 1)).toDatum

theorem remainder_whole (w : Whole) (n : Nat) :
    remainder (.whole w) n = .ok (.ofInt (w.toInt % n)) := rfl

theorem isLeap_whole (w : Whole) : isLeap (.whole w) = .ok (Gregorian.isLeap w.toInt) := by
  simp only [isLeap, remainder_whole, bind, Except.bind, pure, Except.pure,
    Datum.sameScalar_ofInt, Gregorian.isLeap]
  change _ = Except.ok (w.toInt % (4 : Nat) == 0 &&
    (w.toInt % (100 : Nat) != 0 || w.toInt % (400 : Nat) == 0))
  generalize w.toInt % (4 : Nat) = a, w.toInt % (100 : Nat) = b, w.toInt % (400 : Nat) = c
  by_cases ha : a = 0 <;> by_cases hb : b = 0 <;> simp [ha, hb]
  rfl

/-- For whole numbers the days of a month are the calendar's. -/
theorem daysInMonth_whole (year month : Whole) :
    daysInMonth (.whole year) (.whole month) =
      match Gregorian.daysInMonth? year.toInt month.toInt with
      | some days => .ok days
      | none =>
        .error (if 1 ≤ month.toInt ∧ month.toInt ≤ 12 then .noEntry
          else (Failure.noSuchMonth month).raised) := by
  simp only [daysInMonth, Datum.toNumber_whole, bind, Except.bind, Number.lt_whole,
    Number.same_whole, isLeap_whole, Gregorian.daysInMonth?, pure, Except.pure]
  by_cases h : 1 ≤ month.toInt ∧ month.toInt ≤ 12
  · have hl : ¬month.toInt < 1 := by omega
    have hu : ¬12 < month.toInt := by omega
    by_cases h2 : month.toInt = 2 <;> by_cases hy : Gregorian.isLeap year.toInt <;>
      simp [hl, hu, h, h2, hy, atPosition?, monthLengths]
  · have hc : month.toInt < 1 ∨ 12 < month.toInt := by omega
    simp [h, hc]

/-- For whole numbers the days before a month are the calendar's. -/
theorem daysBeforeMonth_whole (year month : Whole) :
    daysBeforeMonth (.whole year) (.whole month) =
      match Gregorian.daysBeforeMonth? year.toInt month.toInt with
      | some days => .ok days
      | none => .error .noEntry := by
  simp only [daysBeforeMonth, Datum.toWhole, bind, Except.bind, isLeap_whole,
    Gregorian.daysBeforeMonth?, pure, Except.pure]
  cases atPosition? daysBeforeMonths month.toInt with
  | none => rfl
  | some days =>
    by_cases h : 2 < month.toInt <;> simp [h]

theorem ordinal_whole (year month day : Whole) :
    ordinal (.whole year) (.whole month) (.whole day) =
      match Gregorian.ordinal? year.toInt month.toInt day.toInt with
      | some n => .ok (.ofInt n)
      | none => .error .noEntry := by
  simp only [ordinal, ordinalNumber, daysBeforeYear, Datum.toNumber_whole, bind, Except.bind,
    Number.sub_whole, Number.mul_whole, Number.add_whole, Number.quotient_whole,
    daysBeforeMonth_whole, Gregorian.ordinal?, pure, Except.pure]
  cases Gregorian.daysBeforeMonth? year.toInt month.toInt <;> rfl

theorem dayOfYear_whole (year month day : Whole) :
    dayOfYear (.whole year) (.whole month) (.whole day) =
      match Gregorian.dayOfYear? year.toInt month.toInt day.toInt with
      | some n => .ok (.ofInt n)
      | none => .error .noEntry := by
  simp only [dayOfYear, Datum.toNumber_whole, bind, Except.bind, daysBeforeMonth_whole,
    Gregorian.dayOfYear?, pure, Except.pure]
  cases Gregorian.daysBeforeMonth? year.toInt month.toInt <;> rfl

theorem dayOfWeek_whole (year month day : Whole) :
    dayOfWeek (.whole year) (.whole month) (.whole day) =
      match Gregorian.dayOfWeek? year.toInt month.toInt day.toInt with
      | some n => .ok (.ofInt n)
      | none => .error .noEntry := by
  simp only [dayOfWeek, ordinalNumber, daysBeforeYear, Datum.toNumber_whole, bind, Except.bind,
    Number.sub_whole, Number.mul_whole, Number.add_whole, Number.quotient_whole,
    daysBeforeMonth_whole, Gregorian.dayOfWeek?, Gregorian.ordinal?, pure, Except.pure]
  cases Gregorian.daysBeforeMonth? year.toInt month.toInt <;> rfl

end CalendarText.Gregorian.Unchecked
