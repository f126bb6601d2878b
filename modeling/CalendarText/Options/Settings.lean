import CalendarText.Naming

/-! Settings give values to any part of the options, before any check. A value may be any datum, and in
the place of names a function is the rule that it computes. Settings laid over others keep what the
others set and they do not. -/

namespace CalendarText

structure Settings where
  preferredDateTime : Option Datum
  preferredDate : Option Datum
  preferredTime : Option Datum
  halfNames : Option (NameSetting Meridiem)
  monthNames : Option (NameSetting Whole)
  shortMonthNames : Option (NameSetting Whole)
  weekdayNames : Option (NameSetting Whole)
  shortWeekdayNames : Option (NameSetting Whole)
  shortLength : Option Datum
  passthrough : Option Datum

namespace Settings

def empty : Settings :=
  ⟨none, none, none, none, none, none, none, none, none, none⟩

def onto (upper lower : Settings) : Settings where
  preferredDateTime := upper.preferredDateTime.or lower.preferredDateTime
  preferredDate := upper.preferredDate.or lower.preferredDate
  preferredTime := upper.preferredTime.or lower.preferredTime
  halfNames := upper.halfNames.or lower.halfNames
  monthNames := upper.monthNames.or lower.monthNames
  shortMonthNames := upper.shortMonthNames.or lower.shortMonthNames
  weekdayNames := upper.weekdayNames.or lower.weekdayNames
  shortWeekdayNames := upper.shortWeekdayNames.or lower.shortWeekdayNames
  shortLength := upper.shortLength.or lower.shortLength
  passthrough := upper.passthrough.or lower.passthrough

theorem onto_assoc (a b c : Settings) : (a.onto b).onto c = a.onto (b.onto c) := by
  simp [onto, Option.or_assoc]

theorem empty_onto (s : Settings) : empty.onto s = s := by
  simp [empty, onto]

end Settings

/-- The keywords by which parts of the options are set. -/
inductive Keyword where
  | preferredDateTime
  | preferredDate
  | preferredTime
  | halfNames
  | monthNames
  | shortMonthNames
  | weekdayNames
  | shortWeekdayNames
  | shortLength
  | passthrough
  deriving DecidableEq, Repr

namespace Keyword

def all : List Keyword :=
  [preferredDateTime, preferredDate, preferredTime, halfNames, monthNames, shortMonthNames,
    weekdayNames, shortWeekdayNames, shortLength, passthrough]

def name : Keyword → Text
  | preferredDateTime => Preferred.datetime.option
  | preferredDate => Preferred.date.option
  | preferredTime => Preferred.time.option
  | halfNames => "am_pm_names".toList
  | monthNames => "month_names".toList
  | shortMonthNames => "abbreviated_month_names".toList
  | weekdayNames => "day_of_week_names".toList
  | shortWeekdayNames => "abbreviated_day_of_week_names".toList
  | shortLength => "abbreviation_size".toList
  | passthrough => "passthrough_unknown".toList

def ofName? (t : Text) : Option Keyword :=
  all.find? (·.name == t)

/-- Names of parts that are derived from others and cannot be set. -/
def reserved : List Text :=
  ["_months".toList, "_months_abbreviated".toList, "_days".toList, "_days_abbreviated".toList]

end Keyword

/-- Settings given by keyword, together with the names that are no keywords. -/
structure Keywords where
  settings : Settings
  unknown : List Text

end CalendarText
