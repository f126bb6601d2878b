import CalendarText.Limits
import CalendarText.Field

/-! A calendar date. Its parts are in range by construction; the day keeps the form in which it was
supplied. -/

namespace CalendarText

@[ext]
structure Date where
  year : Int
  month : Int
  day : Whole
  year_mem : minYear ≤ year ∧ year ≤ maxYear
  month_mem : 1 ≤ month ∧ month ≤ 12
  day_mem : 1 ≤ day.toInt ∧ day.toInt ≤ Gregorian.daysInMonth year month

namespace Date

instance : DecidableEq Date := fun _ _ =>
  decidable_of_decidable_of_iff Date.ext_iff.symm

/-- The date with the given parts, which are checked from the year down. -/
def make (year month day : Datum) : Outcome Date := do
  let y ← checkYear year
  let m ← checkMonth month
  let d ← checkDay (Gregorian.daysInMonth y m) (.ofInt y) m day
  return ⟨y, m, d, y.2, m.2, d.2⟩

def ofArguments : List Datum → Outcome Date
  | [year, month, day] => make year month day
  | _ => .error .wrongKind

def ordinal (d : Date) : Int :=
  Gregorian.ordinal d.year d.month d.day.toInt

def dayOfWeek (d : Date) : Int :=
  Gregorian.dayOfWeek d.year d.month d.day.toInt

def dayOfYear (d : Date) : Int :=
  Gregorian.dayOfYear d.year d.month d.day.toInt

def quarter (d : Date) : Int :=
  Gregorian.quarter d.month

/-- Two dates are the same when their parts are equal as integers. -/
def same (a b : Date) : Bool :=
  a.year == b.year && a.month == b.month && a.day.toInt == b.day.toInt

def published (d : Date) : Field → Option Datum
  | .year => some (.ofInt d.year)
  | .month => some (.ofInt d.month)
  | .day => some d.day
  | _ => none

/-- The call that builds the date. -/
def expression (d : Date) : Text :=
  "Date(".toList ++ signedNumeral d.year ++ ", ".toList ++ signedNumeral d.month ++
    ", ".toList ++ d.day.plain ++ [')']

end Date

end CalendarText
