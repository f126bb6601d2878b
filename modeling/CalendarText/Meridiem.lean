import CalendarText.Number

/-! The halves of the day: before noon from midnight on, after noon from hour twelve on. -/

namespace CalendarText

inductive Meridiem where
  | am
  | pm
  deriving DecidableEq, Repr

namespace Meridiem

def name : Meridiem → Text
  | am => "AM".toList
  | pm => "PM".toList

def value : Meridiem → Text
  | am => "am".toList
  | pm => "pm".toList

/-- The position of the half in a pair of names. -/
def index : Meridiem → Nat
  | am => 0
  | pm => 1

def ofHourNumber (hour : Int) : Meridiem :=
  if 12 ≤ hour then pm else am

/-- The half of the day for an hour of any kind that can be compared. -/
def ofHour (hour : Datum) : Outcome Meridiem := do
  return if (Number.whole 12).le (← hour.toNumber) then pm else am

theorem ofHour_whole (w : Whole) : ofHour (.whole w) = .ok (ofHourNumber w.toInt) := by
  simp [ofHour, ofHourNumber, bind, Except.bind, pure, Except.pure]

end Meridiem

end CalendarText
