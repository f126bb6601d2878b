/-! The proleptic Gregorian calendar with astronomical years, where year 0 exists. Ordinal 1 is
1 January of year 1, a Monday. Divisions round toward negative infinity, so the same formulas
hold before year 1. -/

namespace CalendarText.Gregorian

def isLeap (year : Int) : Bool :=
  year % 4 == 0 && (year % 100 != 0 || year % 400 == 0)

/-- Days in each month of a common year; month 1 is at position 1. -/
def monthLengths : List Int := [0, 31, 28, 31, 30, 31, 30, 31, 31, 30, 31, 30, 31]

/-- Days of a common year before each month; month 1 is at position 1. -/
def daysBeforeMonths : List Int := [0, 0, 31, 59, 90, 120, 151, 181, 212, 243, 273, 304, 334]

/-- The entry at a position, where negative positions count from the end. -/
def atPosition? (table : List Int) (position : Int) : Option Int :=
  if 0 ≤ position then table[position.toNat]?
  else if -(table.length : Int) ≤ position then table[(table.length + position).toNat]?
  else none

/-- The days of a month, for months 1 to 12. -/
def daysInMonth? (year month : Int) : Option Int :=
  if 1 ≤ month ∧ month ≤ 12 then
    if month = 2 ∧ isLeap year then some 29 else atPosition? monthLengths month
  else none

/-- The days of the year before a month, wherever the table has an entry for it. -/
def daysBeforeMonth? (year month : Int) : Option Int :=
  (atPosition? daysBeforeMonths month).map fun days =>
    if 2 < month ∧ isLeap year then days + 1 else days

def daysBeforeYear (year : Int) : Int :=
  let y := year - 1
  y * 365 + y / 4 - y / 100 + y / 400

def ordinal? (year month day : Int) : Option Int :=
  (daysBeforeMonth? year month).map fun days => daysBeforeYear year + days + day

def dayOfYear? (year month day : Int) : Option Int :=
  (daysBeforeMonth? year month).map fun days => days + day

/-- The weekday of an ordinal, Monday as 1 and Sunday as 7. -/
def weekdayOfOrdinal (ordinal : Int) : Int :=
  (ordinal - 1) % 7 + 1

def dayOfWeek? (year month day : Int) : Option Int :=
  (ordinal? year month day).map weekdayOfOrdinal

def quarter (month : Int) : Int :=
  (month - 1) / 3 + 1

def daysInMonth (year month : Int) : Int :=
  (daysInMonth? year month).getD 0

def daysBeforeMonth (year month : Int) : Int :=
  (daysBeforeMonth? year month).getD 0

def ordinal (year month day : Int) : Int :=
  daysBeforeYear year + daysBeforeMonth year month + day

def dayOfYear (year month day : Int) : Int :=
  daysBeforeMonth year month + day

def dayOfWeek (year month day : Int) : Int :=
  weekdayOfOrdinal (ordinal year month day)

theorem daysInMonth?_of_mem (year : Int) {month : Int} (h : 1 ≤ month ∧ month ≤ 12) :
    daysInMonth? year month = some (daysInMonth year month) := by
  have hm : month.toNat < monthLengths.length := by
    simp only [monthLengths, List.length_cons, List.length_nil]
    omega
  have hp : 0 ≤ month := by omega
  rw [daysInMonth, daysInMonth?, if_pos h]
  split
  · rfl
  · rw [atPosition?, if_pos hp, List.getElem?_eq_getElem hm, Option.getD_some]

theorem daysBeforeMonth?_of_mem (year : Int) {month : Int} (h : 1 ≤ month ∧ month ≤ 12) :
    daysBeforeMonth? year month = some (daysBeforeMonth year month) := by
  have hm : month.toNat < daysBeforeMonths.length := by
    simp only [daysBeforeMonths, List.length_cons, List.length_nil]
    omega
  have hp : 0 ≤ month := by omega
  simp only [daysBeforeMonth, daysBeforeMonth?, atPosition?, hp, if_true,
    List.getElem?_eq_getElem hm, Option.map_some, Option.getD_some]

theorem weekdayOfOrdinal_mem (n : Int) : 1 ≤ weekdayOfOrdinal n ∧ weekdayOfOrdinal n ≤ 7 := by
  unfold weekdayOfOrdinal
  omega

end CalendarText.Gregorian
