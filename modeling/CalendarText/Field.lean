import CalendarText.Text

/-! The fields that a calendar value may publish to the directives. -/

namespace CalendarText

inductive Field where
  | year
  | month
  | day
  | hour
  | minute
  | second
  | microsecond
  | utcOffset
  | stdOffset
  | zoneName
  deriving DecidableEq, Repr

namespace Field

/-- The fields in the order in which they are listed. -/
def all : List Field :=
  [year, month, day, hour, minute, second, microsecond, utcOffset, stdOffset, zoneName]

def name : Field → Text
  | year => "year".toList
  | month => "month".toList
  | day => "day".toList
  | hour => "hour".toList
  | minute => "minute".toList
  | second => "second".toList
  | microsecond => "microsecond".toList
  | utcOffset => "utc_offset".toList
  | stdOffset => "std_offset".toList
  | zoneName => "zone_abbr".toList

def ofName? (t : Text) : Option Field :=
  all.find? (·.name == t)

theorem mem_all (f : Field) : f ∈ all := by
  cases f <;> decide

theorem ofName?_name (f : Field) : ofName? f.name = some f := by
  cases f <;> decide

end Field

end CalendarText
