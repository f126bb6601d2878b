import CalendarText.Proofs.Ordinals
import CalendarText.Proofs.Requirements

/-! Fields that hold a day of the calendar, as those of a date do. What is worked out from the year,
the month and the day is then found. -/

namespace CalendarText

theorem Gregorian.isShort_weekdayOfOrdinal (n : Int) : isShort (weekdayOfOrdinal n) = true := by
  have h := weekdayOfOrdinal_mem n
  exact isShort_of_lt (by omega)

structure Fields.HasDate (f : Fields) (y m d : Whole) : Prop where
  year : f.value? .year = some (.whole y)
  month : f.value? .month = some (.whole m)
  day : f.value? .day = some (.whole d)
  isDate : Gregorian.IsDate y.toInt m.toInt d.toInt

theorem Fields.require_of_value {f : Fields} {x : Field} {d : Datum} (h : f.value? x = some d)
    (tag : Datum) : f.require x tag = .ok d := by
  rw [require, h]

namespace Fields.HasDate

variable {f : Fields} {y m d : Whole} (h : f.HasDate y m d)

include h

theorem dayOfWeek (tag : Datum) :
    f.dayOfWeek tag = .ok (.ofInt (Gregorian.dayOfWeek y.toInt m.toInt d.toInt)) := by
  rw [Fields.dayOfWeek, require_of_value h.year, require_of_value h.month, require_of_value h.day]
  simp only [ok_bind, Gregorian.Unchecked.dayOfWeek_whole, Gregorian.dayOfWeek?, Gregorian.ordinal?,
    Gregorian.daysBeforeMonth?_of_mem _ h.isDate.month_mem]
  rfl

theorem dayOfYear (tag : Datum) :
    f.dayOfYear tag = .ok (.ofInt (Gregorian.dayOfYear y.toInt m.toInt d.toInt)) := by
  rw [Fields.dayOfYear, require_of_value h.year, require_of_value h.month, require_of_value h.day]
  simp only [ok_bind, Gregorian.Unchecked.dayOfYear_whole, Gregorian.dayOfYear?,
    Gregorian.daysBeforeMonth?_of_mem _ h.isDate.month_mem]
  rfl

end Fields.HasDate

theorem Date.isDate (d : Date) : Gregorian.IsDate d.year d.month d.day.toInt :=
  ⟨d.month_mem, d.day_mem⟩

/-- The view of a date that the directives read. -/
def Date.fields (d : Date) : Fields :=
  ⟨.text (Value.date d).kind, d.published⟩

theorem Date.fields_hasDate (d : Date) :
    d.fields.HasDate (.number d.year) (.number d.month) d.day :=
  ⟨rfl, rfl, rfl, d.isDate⟩

end CalendarText
