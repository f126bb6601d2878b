import CalendarText.Proofs.Components
import CalendarText.Proofs.DateFields
import CalendarText.Proofs.DayCount

/-! Weekdays go round in sevens with the days, across the ends of months, leap days and centuries, and
come back after four hundred years. -/

namespace CalendarText

namespace Gregorian

theorem weekdayOfOrdinal_add (n k : Int) :
    weekdayOfOrdinal (n + k) = (weekdayOfOrdinal n - 1 + k) % 7 + 1 := by
  unfold weekdayOfOrdinal
  omega

theorem weekdayOfOrdinal_eq_iff {m n : Int} :
    weekdayOfOrdinal m = weekdayOfOrdinal n ↔ 7 ∣ m - n := by
  unfold weekdayOfOrdinal
  omega

/-- Four centuries have as many leap days wherever they begin. -/
theorem daysBeforeYear_add_fourCenturies (year : Int) :
    daysBeforeYear (year + 400) = daysBeforeYear year + 146097 := by
  simp only [daysBeforeYear]
  omega

theorem isLeap_add_fourCenturies (year : Int) : isLeap (year + 400) = isLeap year := by
  have h4 : (year + 400) % 4 = year % 4 := by omega
  have h100 : (year + 400) % 100 = year % 100 := by omega
  have h400 : (year + 400) % 400 = year % 400 := by omega
  rw [isLeap, isLeap, h4, h100, h400]

theorem daysInMonth_add_fourCenturies (year month : Int) :
    daysInMonth (year + 400) month = daysInMonth year month := by
  simp only [daysInMonth, daysInMonth?, isLeap_add_fourCenturies]

theorem daysBeforeMonth_add_fourCenturies (year month : Int) :
    daysBeforeMonth (year + 400) month = daysBeforeMonth year month := by
  simp only [daysBeforeMonth, daysBeforeMonth?, isLeap_add_fourCenturies]

theorem ordinal_add_fourCenturies (year month day : Int) :
    ordinal (year + 400) month day = ordinal year month day + 146097 := by
  have hy := daysBeforeYear_add_fourCenturies year
  have hm := daysBeforeMonth_add_fourCenturies year month
  unfold ordinal
  omega

namespace Day

def weekday (a : Day) : Int :=
  Gregorian.dayOfWeek a.year a.month a.day

/-- The same day of the year four hundred years later. -/
def fourCenturiesLater (a : Day) : Day where
  year := a.year + 400
  month := a.month
  day := a.day
  isDate := ⟨a.isDate.month_mem, by
    rw [daysInMonth_add_fourCenturies]
    exact a.isDate.day_mem⟩

theorem weekday_eq (a : Day) : a.weekday = weekdayOfOrdinal a.ordinal := rfl

theorem weekday_iterate_next (a : Day) (n : Nat) :
    (next^[n] a).weekday = (a.weekday - 1 + n) % 7 + 1 := by
  rw [weekday_eq, ordinal_iterate_next, weekdayOfOrdinal_add, ← weekday_eq]

/-- Four centuries are a whole number of weeks. -/
theorem weekday_fourCenturiesLater (a : Day) : a.fourCenturiesLater.weekday = a.weekday := by
  have ho : a.fourCenturiesLater.ordinal = a.ordinal + 146097 :=
    ordinal_add_fourCenturies a.year a.month a.day
  rw [weekday_eq, weekday_eq, ho, weekdayOfOrdinal_eq_iff]
  omega

theorem unchecked_dayOfWeek (a : Day) :
    Unchecked.dayOfWeek (.ofInt a.year) (.ofInt a.month) (.ofInt a.day) =
      .ok (.ofInt a.weekday) := by
  have hd : dayOfWeek? a.year a.month a.day = some a.weekday := by
    rw [dayOfWeek?, ordinal?, daysBeforeMonth?_of_mem a.year a.isDate.month_mem]
    rfl
  simp only [Datum.ofInt, Unchecked.dayOfWeek_whole, Whole.toInt_number, hd]

end Day

end Gregorian

theorem Date.render_weekday (d : Date) (o : Options) :
    render (.text "%u".toList) (.date d) o = .ok (padNumber (.number d.dayOfWeek) 2 zeroFill) := by
  refine Directive.render_bare (f := d.fields) (d := .weekday) rfl ?_
  exact Directive.renderSection_whole (d := .weekday) trivial (d.fields_hasDate.dayOfWeek _)
    (Gregorian.isShort_weekdayOfOrdinal _) 0

theorem numeralValue_padNumber {n : Int} (h : 0 ≤ n) (width : Int) :
    (numeralValue (padNumber n width zeroFill) : Int) = n := by
  rw [padNumber_of_nonneg h, numeralValue_padded_numeral]
  omega

open Gregorian in
/-- The weekday of a day is always found and lies between 1 and 7, Monday and Sunday. Going on by some
days goes round in sevens by as many; the first of January of year 1 is a Monday, and after four
hundred years the weekdays are the same. A date shows its weekday as a number, the same as another
date if there are whole weeks between them. -/
theorem weekdays_go_round :
    (∀ a : Day,
      Unchecked.dayOfWeek (.ofInt a.year) (.ofInt a.month) (.ofInt a.day) =
        .ok (.ofInt a.weekday) ∧
      (1 ≤ a.weekday ∧ a.weekday ≤ 7) ∧
      (∀ n : Nat, (Day.next^[n] a).weekday = (a.weekday - 1 + n) % 7 + 1) ∧
      a.fourCenturiesLater.weekday = a.weekday) ∧
    (Day.newYear 1).weekday = 1 ∧
    ∀ (a b : Date) (o o' : Options),
      ∃ s t, render (.text "%u".toList) (.date a) o = .ok s ∧
        render (.text "%u".toList) (.date b) o' = .ok t ∧
        numeralValue s = a.dayOfWeek ∧ (s = t ↔ 7 ∣ a.ordinal - b.ordinal) := by
  refine ⟨fun a => ⟨a.unchecked_dayOfWeek, weekdayOfOrdinal_mem _, a.weekday_iterate_next,
    a.weekday_fourCenturiesLater⟩, rfl, fun a b o o' => ?_⟩
  have hpos : 1 ≤ a.dayOfWeek := (weekdayOfOrdinal_mem _).1
  have hw : a.dayOfWeek = b.dayOfWeek ↔ 7 ∣ a.ordinal - b.ordinal := weekdayOfOrdinal_eq_iff
  refine ⟨_, _, a.render_weekday o, b.render_weekday o', numeralValue_padNumber (by omega) 2, ?_⟩
  rw [← hw]
  exact ⟨padNumber_inj, fun h => by rw [h]⟩

end CalendarText
