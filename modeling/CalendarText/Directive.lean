import CalendarText.Options
import CalendarText.Fields
import CalendarText.Section
import CalendarText.Padding
import CalendarText.Text.Letters

/-! The table of directives. Each has a character, a width and a fill that hold where the template
gives none, and a rule that finds its datum in the fields of a value. Most data are padded as they
are; the fraction of a second, the offset and the zone name settle their own width. -/

namespace CalendarText

inductive Directive where
  | percent
  | shortWeekdayName
  | weekdayName
  | shortMonthName
  | monthName
  | preferred (p : Preferred)
  | day
  | fraction
  | hour
  | halfDayHour
  | dayOfYear
  | month
  | minute
  | upperHalf
  | lowerHalf
  | quarter
  | second
  | weekday
  | yearOfCentury
  | year
  | offset
  | zoneName
  deriving DecidableEq, Repr

namespace Directive

def all : List Directive :=
  [percent, shortWeekdayName, weekdayName, shortMonthName, monthName, preferred .datetime, day,
    fraction, hour, halfDayHour, dayOfYear, month, minute, upperHalf, lowerHalf, quarter, second,
    weekday, preferred .date, preferred .time, yearOfCentury, year, offset, zoneName]

def letter : Directive → Char
  | percent => '%'
  | shortWeekdayName => 'a'
  | weekdayName => 'A'
  | shortMonthName => 'b'
  | monthName => 'B'
  | preferred p => p.letter
  | day => 'd'
  | fraction => 'f'
  | hour => 'H'
  | halfDayHour => 'I'
  | dayOfYear => 'j'
  | month => 'm'
  | minute => 'M'
  | upperHalf => 'p'
  | lowerHalf => 'P'
  | quarter => 'q'
  | second => 'S'
  | weekday => 'u'
  | yearOfCentury => 'y'
  | year => 'Y'
  | offset => 'z'
  | zoneName => 'Z'

def description : Directive → Text
  | percent => "literal %".toList
  | shortWeekdayName => "abbreviated weekday name".toList
  | weekdayName => "full weekday name".toList
  | shortMonthName => "abbreviated month name".toList
  | monthName => "full month name".toList
  | preferred .datetime => "preferred date+time representation".toList
  | preferred .date => "preferred date representation".toList
  | preferred .time => "preferred time representation".toList
  | day => "day of the month".toList
  | fraction => "sub-second fraction".toList
  | hour => "hour, 24-hour clock".toList
  | halfDayHour => "hour, 12-hour clock".toList
  | dayOfYear => "day of the year".toList
  | month => "month".toList
  | minute => "minute".toList
  | upperHalf => "AM or PM".toList
  | lowerHalf => "am or pm".toList
  | quarter => "quarter".toList
  | second => "second".toList
  | weekday => "ISO day of the week".toList
  | yearOfCentury => "year modulo 100".toList
  | year => "year".toList
  | offset => "UTC offset".toList
  | zoneName => "zone abbreviation".toList

def defaultWidth : Directive → Nat
  | day | hour | halfDayHour | month | minute | second | weekday | yearOfCentury => 2
  | dayOfYear => 3
  | year | offset => 4
  | _ => 0

/-- Names are filled with spaces and all else with zeros. -/
def defaultFill : Directive → Text
  | shortWeekdayName | weekdayName | shortMonthName | monthName | upperHalf | lowerHalf
  | zoneName => spaceFill
  | _ => zeroFill

def isPreferred : Directive → Bool
  | preferred _ => true
  | _ => false

def ofLetter? (c : Char) : Option Directive :=
  all.find? (·.letter == c)

def tag (d : Directive) : Datum :=
  .text [d.letter]

/-- The name of the half of the day that the hour falls in. Only a text has upper and lower case. -/
def halfText (d : Directive) (f : Fields) (o : Options) : Outcome Text := do
  let hour ← f.require .hour d.tag
  match ← o.halfName (← Meridiem.ofHour hour) with
  | .text t => return t
  | _ => .error .noAttribute

def clockHour (hour : Number) : Outcome Number := do
  ((← hour.add (.whole 23)).remainder 12).add (.whole 1)

/-- The datum a directive shows, before padding. -/
def content (d : Directive) (f : Fields) (o : Options) : Outcome Datum := do
  match d with
  | percent => return .text ['%']
  | shortWeekdayName => o.shortWeekdays.name (← f.dayOfWeek d.tag)
  | weekdayName => o.weekdays.name (← f.dayOfWeek d.tag)
  | shortMonthName => o.shortMonths.name (← f.require .month d.tag)
  | monthName => o.months.name (← f.require .month d.tag)
  | day => f.require .day d.tag
  | hour => f.require .hour d.tag
  | halfDayHour => return (← clockHour (← (← f.require .hour d.tag).toNumber)).toDatum
  | dayOfYear => f.dayOfYear d.tag
  | month => f.require .month d.tag
  | minute => f.require .minute d.tag
  | upperHalf => return .text (upperText (← d.halfText f o))
  | lowerHalf => return .text (lowerText (← d.halfText f o))
  | quarter => f.quarter d.tag
  | second => f.require .second d.tag
  | weekday => f.dayOfWeek d.tag
  | yearOfCentury => Gregorian.Unchecked.remainder (← f.require .year d.tag) 100
  | year => f.require .year d.tag
  | preferred _ | fraction | offset | zoneName => .error .wrongKind

def microsecondDigits : Datum → Outcome Text
  | .whole w =>
    if w.isWritable then
      .ok (if w.toInt < 0 then '-' :: padLeading (numeral w.toInt.natAbs) 5 zeroFill
        else padLeading (numeral w.toInt.natAbs) 6 zeroFill)
    else .error .tooLong
  | .text _ => .error .wrongValue
  | .real _ => .error .wrongValue
  | _ => .error .wrongKind

/-- The number of digits shown for a precision: at least one. -/
def shownDigits (precision : Datum) : Outcome Nat := do
  match ← precision.toNumber with
  | .whole n => return (max n 1).toNat
  | .real x => if (Number.real x).lt (.whole 1) then return 1 else .error .wrongKind

/-- The digits of a fraction of a second at its precision, cut off and not rounded. -/
def fractionText : Datum → Outcome Text
  | .tuple [microsecond, precision] => do
    let digits ← microsecondDigits microsecond
    return digits.take (← shownDigits precision)
  | _ => .error .wrongValue

/-- Hours and minutes of a number of seconds, written as one number. -/
def hoursMinutes (seconds : Number) : Outcome Number := do
  (← (seconds.quotient 3600).mul (.whole 100)).add ((seconds.quotient 60).remainder 60)

def offsetItem (total : Number) (width fill : Datum) : Outcome Datum := do
  let shown ← hoursMinutes total.abs
  (← padItem (.text (← shown.written)) width fill).afterSign
    (if (Number.whole 0).le total then '+' else '-')

/-- The text of a directive under a width and a fill of any kind. A preferred directive has none of
its own. Values that are not aware have no offset, and an empty zone name is not filled up. -/
def formatItem (d : Directive) (f : Fields) (o : Options) (width fill : Datum) :
    Outcome Datum := do
  match d with
  | fraction => return .text (← fractionText (← f.fraction d.tag))
  | offset =>
    if f.isAware then
      let utc ← f.require .utcOffset d.tag
      let std ← f.require .stdOffset d.tag
      offsetItem (← (← utc.toNumber).add (← std.toNumber)) width fill
    else return .text []
  | zoneName =>
    let name := (f.value? .zoneName).getD (.text [])
    if name.truthy then padItem name width fill else return .text []
  | d => padDatum (← d.content f o) width fill

def format (d : Directive) (f : Fields) (o : Options) (m : Modifiers) : Outcome Datum :=
  d.formatItem f o (.ofInt m.width) (.text m.fill)

theorem mem_all (d : Directive) : d ∈ all := by
  cases d with
  | preferred p => cases p <;> decide
  | _ => decide

theorem ofLetter?_letter (d : Directive) : ofLetter? d.letter = some d := by
  cases d with
  | preferred p => cases p <;> rfl
  | _ => rfl

theorem letter_injective {d e : Directive} (h : d.letter = e.letter) : d = e :=
  Option.some.inj (by rw [← ofLetter?_letter d, ← ofLetter?_letter e, h])

end Directive

end CalendarText
