import CalendarText.Limits
import CalendarText.Field

/-! A zone is a fixed offset from UTC in seconds, split into its standard part and the part that
daylight saving adds, with the abbreviation in use. -/

namespace CalendarText

structure Zone where
  utcOffset : Int
  stdOffset : Int
  abbreviation : Text
  utcOffset_mem : -maxOffset ≤ utcOffset ∧ utcOffset ≤ maxOffset
  stdOffset_mem : -maxOffset ≤ stdOffset ∧ stdOffset ≤ maxOffset
  deriving DecidableEq

namespace Zone

def make (utcOffset stdOffset abbreviation : Datum) : Outcome Zone := do
  let u ← checkOffset "utc_offset".toList utcOffset
  let s ← checkOffset "std_offset".toList stdOffset
  match abbreviation with
  | .text a => return ⟨u, s, a, u.2, s.2⟩
  | a => .error (.refused (.notText "abbreviation".toList a.kind))

def ofArguments : List Datum → Outcome Zone
  | [] => make (.ofInt 0) (.ofInt 0) (.text [])
  | [u] => make u (.ofInt 0) (.text [])
  | [u, s] => make u s (.text [])
  | [u, s, a] => make u s a
  | _ => .error .wrongKind

def utc : Zone :=
  ⟨0, 0, "UTC".toList, by decide, by decide⟩

/-- The zone so many hours and minutes from UTC, without daylight saving. The hours carry the sign
and the minutes follow it. -/
def ofHours (hours minutes abbreviation : Datum) : Outcome Zone := do
  let m ← minutes.toNumber
  if (Number.whole 0).le m && m.le (.whole 59) then
    let h ← hours.toNumber
    let ofHour ← h.mul (.whole secondsPerHour)
    let ofMinute ← m.mul (.whole secondsPerMinute)
    let offset ← if (Number.whole 0).le h then ofHour.add ofMinute else ofHour.sub ofMinute
    make offset.toDatum (.ofInt 0) abbreviation
  else .error (Failure.refused (.minutesOutOfRange minutes)).raised

def ofHoursArguments : List Datum → Outcome Zone
  | [h] => ofHours h (.ofInt 0) (.text [])
  | [h, m] => ofHours h m (.text [])
  | [h, m, a] => ofHours h m a
  | _ => .error .wrongKind

def totalOffset (z : Zone) : Int :=
  z.utcOffset + z.stdOffset

def published (z : Zone) : Field → Option Datum
  | .utcOffset => some (.ofInt z.utcOffset)
  | .stdOffset => some (.ofInt z.stdOffset)
  | .zoneName => some (.text z.abbreviation)
  | _ => none

/-- The call that builds the zone. -/
def expression (z : Zone) : Text :=
  "Zone(".toList ++ signedNumeral z.utcOffset ++ ", ".toList ++ signedNumeral z.stdOffset ++
    ", ".toList ++ quoted z.abbreviation ++ [')']

end Zone

end CalendarText
