import CalendarText.DateTime
import CalendarText.Fields
import CalendarText.Civil

/-! Everything that can be handed to a formatter or a conversion: the calendar values of this library,
civil values, field views, objects that publish fields of their own, and plain data. -/

namespace CalendarText

inductive Value where
  | date (d : Date)
  | time (t : TimeOfDay)
  | datetime (x : DateTime)
  | zone (z : Zone)
  | civil (c : Civil)
  | fields (f : Fields)
  /-- An object of a named kind that publishes a datum as its fields. -/
  | publisher (kind : Text) (published : Datum)
  /-- An object of a named kind that has nothing to do with calendars. -/
  | foreign (kind : Text)
  | datum (d : Datum)

inductive Part where
  | year
  | month
  | day
  | hour
  | minute
  | second
  | microsecond
  | precision
  deriving DecidableEq, Repr

def Date.part? (d : Date) : Part → Option Datum
  | .year => some (.ofInt d.year)
  | .month => some (.ofInt d.month)
  | .day => some d.day
  | _ => none

def TimeOfDay.part? (t : TimeOfDay) : Part → Option Datum
  | .hour => some (.ofInt t.hour)
  | .minute => some (.ofInt t.minute)
  | .second => some (.ofInt t.second)
  | .microsecond => some (.ofInt t.microsecond)
  | .precision => some (.ofInt t.precision)
  | _ => none

def CivilDate.part? (d : CivilDate) : Part → Option Datum
  | .year => some (.ofInt d.year)
  | .month => some (.ofInt d.month)
  | .day => some (.ofInt d.day)
  | _ => none

/-- Civil times have no precision. -/
def CivilTime.part? (t : CivilTime) : Part → Option Datum
  | .hour => some (.ofInt t.hour)
  | .minute => some (.ofInt t.minute)
  | .second => some (.ofInt t.second)
  | .microsecond => some (.ofInt t.microsecond)
  | _ => none

namespace Value

def kind : Value → Text
  | date _ => "Date".toList
  | time _ => "Time".toList
  | datetime _ => "DateTime".toList
  | zone _ => "Zone".toList
  | civil c => c.kind
  | fields _ => "CalendarFields".toList
  | publisher kind _ => kind
  | foreign kind => kind
  | datum d => d.kind

def part? (v : Value) (p : Part) : Option Datum :=
  match v with
  | date d => d.part? p
  | time t => t.part? p
  | datetime x => (x.date.part? p).or (x.time.part? p)
  | civil (.date d) => d.part? p
  | civil (.time t) => t.part? p
  | civil (.datetime x) => (x.date.part? p).or (x.time.part? p)
  | _ => none

def part (v : Value) (p : Part) : Outcome Datum :=
  match v.part? p with
  | some d => .ok d
  | none => .error .noAttribute

def zoneChoice : Value → ZoneChoice
  | datum .null => .absent
  | zone z => .zone z
  | v => .other v.kind

def datePart : Value → Outcome Value
  | datetime x => .ok (date x.date)
  | civil (.datetime x) => .ok (civil (.date x.date))
  | _ => .error .noAttribute

def timePart : Value → Outcome Value
  | datetime x => .ok (time x.time)
  | civil (.datetime x) => .ok (civil (.time x.time.naive))
  | _ => .error .noAttribute

def zonePart : Value → Outcome Value
  | datetime ⟨_, _, some z⟩ => .ok (zone z)
  | datetime ⟨_, _, none⟩ => .ok (datum .null)
  | _ => .error .noAttribute

def isKey : Value → Bool
  | datum (.list _) => false
  | datum (.record _) => false
  | _ => true

/-- Equality of two separate values. Views and objects equal only themselves. -/
def same : Value → Value → Bool
  | date a, date b => a.same b
  | time a, time b => a == b
  | datetime a, datetime b => a.same b
  | zone a, zone b => a == b
  | civil a, civil b => a.same b
  | datum a, datum b => a.sameScalar b
  | _, _ => false

end Value

/-- A value and, when it has been kept, the number it is kept under. -/
structure Held where
  value : Value
  number : Option Nat

namespace Held

/-- Equality of the values at two positions of a list. A value equals itself, and one kept number
stands for one value. -/
def sameAt (values : List Held) (i j : Nat) : Bool :=
  i == j ||
    match values[i]?, values[j]? with
    | some a, some b => (a.number.isSome && a.number == b.number) || a.value.same b.value
    | _, _ => false

/-- For each value the position of the first one that equals it. -/
def firstPositions (values : List Held) : Outcome (List Nat) :=
  if values.all (·.value.isKey) then
    .ok ((List.range values.length).map fun i =>
      ((List.range values.length).find? fun j => sameAt values j i).getD i)
  else .error .wrongKind

end Held

def Date.ofValue (v : Value) : Outcome Date := do
  Date.make (← v.part .year) (← v.part .month) (← v.part .day)

/-- The time that has the hour to microsecond of another value; its precision is not taken over. -/
def TimeOfDay.ofValue (v : Value) : Outcome TimeOfDay := do
  TimeOfDay.make (← v.part .hour) (← v.part .minute) (← v.part .second) (← v.part .microsecond) .null

def DateTime.combine (date time : Value) (zone : ZoneChoice) : Outcome DateTime := do
  DateTime.make (← date.part .year) (← date.part .month) (← date.part .day)
    (← time.part .hour) (← time.part .minute) (← time.part .second)
    (← time.part .microsecond) (← time.part .precision) zone

def wholeSeconds (micros : Int) : Int :=
  micros.tdiv microsPerSecond

/-- The zone of a civil time: its daylight part, what is left of its offset, and its name. -/
def CivilTime.zoneChoice (t : CivilTime) : Outcome ZoneChoice := do
  match t.offset with
  | none => return .absent
  | some o =>
    match ← checkHostOffset o.utc with
    | none => return .absent
    | some utc =>
      let std := wholeSeconds ((← checkHostOffset o.dst).getD 0)
      return .zone (← Zone.make (.ofInt (wholeSeconds utc - std)) (.ofInt std)
        (.text (o.name.getD [])))

/-- The conversion of a civil datetime. Only values with an offset can be asked for their zone. -/
def DateTime.ofValue (v : Value) : Outcome DateTime := do
  match v with
  | .civil c =>
    match c.time? with
    | some t =>
      let zone ← t.zoneChoice
      let date ← Date.ofValue v
      let time ← TimeOfDay.ofValue v
      DateTime.combine (.date date) (.time time) zone
    | none => .error .noAttribute
  | _ => .error .noAttribute

def Fields.ofValue (v : Value) : Outcome Fields :=
  match v with
  | .fields f => .ok f
  | .date d => .ok ⟨.text v.kind, d.published⟩
  | .time t => .ok ⟨.text v.kind, t.published⟩
  | .datetime x => .ok ⟨.text v.kind, x.published⟩
  | .publisher kind published => Fields.ofPublished (.text kind) published
  | .civil (.datetime _) => do return ⟨.text v.kind, (← DateTime.ofValue v).published⟩
  | .civil (.date _) => do return ⟨.text v.kind, (← Date.ofValue v).published⟩
  | .civil (.time _) => do return ⟨.text v.kind, (← TimeOfDay.ofValue v).published⟩
  | .datum (.record entries) => .ok (Fields.ofEntries (.text v.kind) entries)
  | v => .error (.notCalendar v.kind)

end CalendarText
