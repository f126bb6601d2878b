import CalendarText.Gregorian.Unchecked

/-! Range checks shared by the calendar values. A component must be an integer proper, not a truth
value, and lie between two bounds, both included; the outcome carries the proof that it does. -/

namespace CalendarText

def secondsPerMinute : Int := 60

def secondsPerHour : Int := 60 * secondsPerMinute

def secondsPerDay : Int := 24 * secondsPerHour

def microsPerSecond : Int := 1000000

/-- The most decimal digits that a fraction of a second is recorded with. -/
def maxPrecision : Int := 6

def minYear : Int := -9999

def maxYear : Int := 9999

/-- The farthest that an offset may lie from zero, in seconds. -/
def maxOffset : Int := secondsPerDay

/-- The integers from `least` to `most`. -/
abbrev Between (least most : Int) := { n : Int // least ≤ n ∧ n ≤ most }

def checkBetween (name : Text) (least most : Int) : Datum → Outcome (Between least most)
  | .whole (.number n) =>
    if h : least ≤ n ∧ n ≤ most then .ok ⟨n, h⟩
    else
      .error (Failure.refused
        (.outOfRange (.text name) (.ofInt least) (.ofInt most) (.ofInt n))).raised
  | d => .error (.refused (.notInteger (.text name) d.kind))

/-- The check for a name and bounds that are themselves unchecked. The upper bound is not looked at
when the value lies below the lower one. -/
def checkRange (name value least most : Datum) : Outcome Unit := do
  match value with
  | .whole (.number n) =>
    let isOutside ←
      if (Number.whole n).lt (← least.toNumber) then pure true
      else pure ((← most.toNumber).lt (.whole n))
    if isOutside then .error (Failure.refused (.outOfRange name least most value)).raised
    else return ()
  | d => .error (Failure.refused (.notInteger name d.kind)).raised

def checkYear : Datum → Outcome (Between minYear maxYear) :=
  checkBetween "year".toList minYear maxYear

def checkMonth : Datum → Outcome (Between 1 12) :=
  checkBetween "month".toList 1 12

def checkPrecision : Datum → Outcome (Between 0 maxPrecision) :=
  checkBetween "precision".toList 0 maxPrecision

def checkOffset (name : Text) : Datum → Outcome (Between (-maxOffset) maxOffset) :=
  checkBetween name (-maxOffset) maxOffset

/-- A day from 1 to `most`. A truth value passes as the whole number it stands for. -/
def checkDay (most : Int) (year : Datum) (month : Int) (day : Datum) :
    Outcome { w : Whole // 1 ≤ w.toInt ∧ w.toInt ≤ most } :=
  match day with
  | .whole w =>
    if h : 1 ≤ w.toInt ∧ w.toInt ≤ most then .ok ⟨w, h⟩
    else .error (Failure.refused (.noSuchDay most year month day)).raised
  | day => .error (Failure.refused (.noSuchDay most year month day)).raised

/-- The day check for a year and a month that are themselves unchecked. A refusal names the month,
which must be whole for that. -/
def checkDayOf (year month day : Datum) : Outcome Unit := do
  let most ← Gregorian.Unchecked.daysInMonth year month
  match month with
  | .whole m =>
    let _ ← checkDay most year m.toInt day
  | _ =>
    match checkDay most year 0 day with
    | .ok _ => return ()
    | .error _ => .error .wrongValue

theorem checkBetween_number {name : Text} {least most n : Int} (h : least ≤ n ∧ n ≤ most) :
    checkBetween name least most (.ofInt n) = .ok ⟨n, h⟩ := by
  simp [checkBetween, Datum.ofInt, h]

end CalendarText
