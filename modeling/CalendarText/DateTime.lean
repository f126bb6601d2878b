import CalendarText.Date
import CalendarText.TimeOfDay
import CalendarText.Zone

/-! A date and a time together, naive without a zone and aware with one. -/

namespace CalendarText

structure DateTime where
  date : Date
  time : TimeOfDay
  zone : Option Zone
  deriving DecidableEq

/-- What was supplied as the zone of a datetime. -/
inductive ZoneChoice where
  | absent
  | zone (z : Zone)
  | other (kind : Text)

def ZoneChoice.check : ZoneChoice → Outcome (Option Zone)
  | absent => .ok none
  | zone z => .ok (some z)
  | other kind => .error (.refused (.notZone kind))

namespace DateTime

/-- The zone is checked before the date, and the date before the time. -/
def make (year month day hour minute second microsecond precision : Datum) (zone : ZoneChoice) :
    Outcome DateTime := do
  let zone ← zone.check
  let date ← Date.make year month day
  let time ← TimeOfDay.make hour minute second microsecond precision
  return ⟨date, time, zone⟩

/-- Three to six positions, the hour and what follows it zero by default, and three named parts. -/
def ofArguments (arguments : List Datum) (microsecond precision : Option Datum)
    (zone : ZoneChoice) : Outcome DateTime :=
  match arguments with
  | year :: month :: day :: rest =>
    if 3 < rest.length then .error .wrongKind
    else
      make year month day (rest[0]?.getD (.ofInt 0)) (rest[1]?.getD (.ofInt 0))
        (rest[2]?.getD (.ofInt 0)) (microsecond.getD (.ofInt 0)) (precision.getD .null) zone
  | _ => .error .wrongKind

def isAware (x : DateTime) : Bool :=
  x.zone.isSome

def same (a b : DateTime) : Bool :=
  a.date.same b.date && a.time == b.time && a.zone == b.zone

/-- The fields of the date and of the time, and those of the zone if there is one. -/
def published (x : DateTime) (f : Field) : Option Datum :=
  (x.date.published f).or ((x.time.published f).or (x.zone.bind (·.published f)))

/-- The call that builds the value; a naive one leaves the zone out. -/
def expression (x : DateTime) : Text :=
  "DateTime(".toList ++ signedNumeral x.date.year ++ ", ".toList ++ signedNumeral x.date.month ++
    ", ".toList ++ x.date.day.plain ++ ", ".toList ++ x.time.parts ++
    (match x.zone with
      | none => []
      | some z => ", zone=".toList ++ z.expression) ++ [')']

end DateTime

end CalendarText
