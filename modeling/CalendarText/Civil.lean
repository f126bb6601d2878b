import CalendarText.Limits

/-! Civil values: dates and times as a host calendar keeps them, for years 1 to 9999, with offsets in
microseconds and no recorded precision. They are the foreign values that can be converted and
formatted. -/

namespace CalendarText

/-- What a host time zone answers for one value. Offset and daylight part are in microseconds. -/
structure CivilOffset where
  utc : Option Int
  dst : Option Int
  name : Option Text
  deriving DecidableEq

structure CivilDate where
  year : Int
  month : Int
  day : Int
  year_mem : 1 ≤ year ∧ year ≤ 9999
  month_mem : 1 ≤ month ∧ month ≤ 12
  day_mem : 1 ≤ day ∧ day ≤ Gregorian.daysInMonth year month
  deriving DecidableEq

structure CivilTime where
  hour : Int
  minute : Int
  second : Int
  microsecond : Int
  offset : Option CivilOffset
  hour_mem : 0 ≤ hour ∧ hour ≤ 23
  minute_mem : 0 ≤ minute ∧ minute ≤ 59
  second_mem : 0 ≤ second ∧ second ≤ 59
  microsecond_mem : 0 ≤ microsecond ∧ microsecond ≤ 999999
  deriving DecidableEq

structure CivilDateTime where
  date : CivilDate
  time : CivilTime
  deriving DecidableEq

inductive Civil where
  | date (d : CivilDate)
  | time (t : CivilTime)
  | datetime (x : CivilDateTime)
  deriving DecidableEq

/-- A host calendar keeps an offset that is less than a day. -/
def checkHostOffset : Option Int → Outcome (Option Int)
  | none => .ok none
  | some n =>
    if (n.natAbs : Int) < secondsPerDay * microsPerSecond then .ok (some n)
    else .error .wrongValue

namespace CivilDate

def ofNumbers (year month day : Int) : Outcome CivilDate :=
  if h : (1 ≤ year ∧ year ≤ 9999) ∧ (1 ≤ month ∧ month ≤ 12) ∧
      (1 ≤ day ∧ day ≤ Gregorian.daysInMonth year month) then
    .ok ⟨year, month, day, h.1, h.2.1, h.2.2⟩
  else .error .wrongValue

end CivilDate

namespace CivilTime

def ofNumbers (hour minute second microsecond : Int) (offset : Option CivilOffset) :
    Outcome CivilTime :=
  if h : (0 ≤ hour ∧ hour ≤ 23) ∧ (0 ≤ minute ∧ minute ≤ 59) ∧ (0 ≤ second ∧ second ≤ 59) ∧
      (0 ≤ microsecond ∧ microsecond ≤ 999999) then
    .ok ⟨hour, minute, second, microsecond, offset, h.1, h.2.1, h.2.2.1, h.2.2.2⟩
  else .error .wrongValue

def utc? (t : CivilTime) : Option Int :=
  t.offset.bind (·.utc)

def naive (t : CivilTime) : CivilTime :=
  { t with offset := none }

def micros (t : CivilTime) : Int :=
  ((t.hour * 60 + t.minute) * 60 + t.second) * microsPerSecond + t.microsecond

end CivilTime

/-- Moments on a scale of microseconds are compared after their offsets are taken away, unless both
have the same offset; a moment with an offset never equals one without. -/
def sameMoment (a b : Int) (utcA utcB : Option Int) : Bool :=
  if utcA = utcB then a == b
  else
    match utcA, utcB with
    | some u, some v => a - u == b - v
    | _, _ => false

def CivilTime.same (a b : CivilTime) : Bool :=
  sameMoment a.micros b.micros a.utc? b.utc?

namespace CivilDateTime

def micros (x : CivilDateTime) : Int :=
  Gregorian.ordinal x.date.year x.date.month x.date.day * (secondsPerDay * microsPerSecond) +
    x.time.micros

def same (a b : CivilDateTime) : Bool :=
  sameMoment a.micros b.micros a.time.utc? b.time.utc?

end CivilDateTime

namespace Civil

def kind : Civil → Text
  | date _ => "date".toList
  | time _ => "time".toList
  | datetime _ => "datetime".toList

def time? : Civil → Option CivilTime
  | date _ => none
  | time t => some t
  | datetime x => some x.time

def same : Civil → Civil → Bool
  | date a, date b => a == b
  | time a, time b => a.same b
  | datetime a, datetime b => a.same b
  | _, _ => false

/-- The parts of a date, missing ones zero. -/
def ofDateArguments (arguments : List Datum) : Outcome Civil := do
  match ← arguments.mapM (·.toWhole) with
  | [y, m, d] => return date (← CivilDate.ofNumbers y m d)
  | _ => .error .wrongKind

def ofTimeArguments (arguments : List Datum) (offset : Option CivilOffset) : Outcome Civil := do
  let ns ← arguments.mapM (·.toWhole)
  if 4 < ns.length then .error .wrongKind
  else
    return time (← CivilTime.ofNumbers (ns.getD 0 0) (ns.getD 1 0) (ns.getD 2 0) (ns.getD 3 0)
      offset)

def ofDateTimeArguments (arguments : List Datum) (offset : Option CivilOffset) :
    Outcome Civil := do
  let ns ← arguments.mapM (·.toWhole)
  if ns.length < 3 ∨ 7 < ns.length then .error .wrongKind
  else
    let d ← CivilDate.ofNumbers (ns.getD 0 0) (ns.getD 1 0) (ns.getD 2 0)
    let t ← CivilTime.ofNumbers (ns.getD 3 0) (ns.getD 4 0) (ns.getD 5 0) (ns.getD 6 0) offset
    return datetime ⟨d, t⟩

end Civil

end CalendarText
