import CalendarText.Limits
import CalendarText.Field

/-! A time of day. Besides hour, minute and second it records a fraction of a second in microseconds
together with the number of decimal digits it was measured with. Second 60 is a leap second. -/

namespace CalendarText

@[ext]
structure TimeOfDay where
  hour : Int
  minute : Int
  second : Int
  microsecond : Int
  precision : Int
  hour_mem : 0 ≤ hour ∧ hour ≤ 23
  minute_mem : 0 ≤ minute ∧ minute ≤ 59
  second_mem : 0 ≤ second ∧ second ≤ 60
  microsecond_mem : 0 ≤ microsecond ∧ microsecond ≤ 999999
  precision_mem : 0 ≤ precision ∧ precision ≤ maxPrecision

namespace TimeOfDay

instance : DecidableEq TimeOfDay := fun _ _ =>
  decidable_of_decidable_of_iff TimeOfDay.ext_iff.symm

/-- The precision of a fraction for which none is recorded. -/
def defaultPrecision (microsecond : Int) : Int :=
  if microsecond = 0 then 0 else maxPrecision

/-- The time with the given parts, checked from the hour down; the precision comes last and may be
null. -/
def make (hour minute second microsecond precision : Datum) : Outcome TimeOfDay := do
  let h ← checkBetween "hour".toList 0 23 hour
  let m ← checkBetween "minute".toList 0 59 minute
  let s ← checkBetween "second".toList 0 60 second
  let u ← checkBetween "microsecond".toList 0 999999 microsecond
  let p ← checkPrecision (match precision with
    | .null => .ofInt (defaultPrecision u)
    | precision => precision)
  return ⟨h, m, s, u, p, h.2, m.2, s.2, u.2, p.2⟩

/-- Up to three positions, each zero by default, and two named parts. -/
def ofArguments (arguments : List Datum) (microsecond precision : Option Datum) :
    Outcome TimeOfDay :=
  if 3 < arguments.length then .error .wrongKind
  else
    make (arguments[0]?.getD (.ofInt 0)) (arguments[1]?.getD (.ofInt 0))
      (arguments[2]?.getD (.ofInt 0)) (microsecond.getD (.ofInt 0)) (precision.getD .null)

def published (t : TimeOfDay) : Field → Option Datum
  | .hour => some (.ofInt t.hour)
  | .minute => some (.ofInt t.minute)
  | .second => some (.ofInt t.second)
  | .microsecond => some (.tuple [.ofInt t.microsecond, .ofInt t.precision])
  | _ => none

/-- The parts as they stand inside the call that builds the value. -/
def parts (t : TimeOfDay) : Text :=
  signedNumeral t.hour ++ ", ".toList ++ signedNumeral t.minute ++ ", ".toList ++
    signedNumeral t.second ++ ", microsecond=".toList ++ signedNumeral t.microsecond ++
    ", precision=".toList ++ signedNumeral t.precision

def expression (t : TimeOfDay) : Text :=
  "Time(".toList ++ t.parts ++ [')']

end TimeOfDay

end CalendarText
