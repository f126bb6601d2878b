import CalendarText.Options
import CalendarText.Text.Letters
import CalendarText.Text.Integers

/-! Settings from the variables of an environment. Four variables are read; one that is null counts as
absent, and an empty text counts as present. -/

namespace CalendarText

abbrev Environment := List (Text × Datum)

namespace Environment

def start : Text := "NIMBLE_STRFTIME_".toList

/-- The variable that sets a preferred template: the option's name in capitals. -/
def templateVariable (p : Preferred) : Text :=
  start ++ upperText p.option

def lengthVariable : Text :=
  start ++ "ABBREVIATION_SIZE".toList

/-- The environment of a process, which holds texts without the character zero. Null stands for a
variable that is not there. -/
def ofProcess (e : Environment) : Outcome Environment :=
  (e.filter fun v => !v.2.isNull).mapM fun v =>
    match v.2 with
    | .text t => if Char.ofNat 0 ∈ t then .error .wrongValue else .ok v
    | _ => .error .wrongKind

def value? (e : Environment) (name : Text) : Option Datum :=
  match e.lookup name with
  | some .null => none
  | d => d

/-- The length that a variable spells, when it is not a number already. -/
def readLength : Datum → Outcome Int
  | .text t =>
    match readInteger? t with
    | some n => .ok n
    | none => .error (.refused (.notNumeral lengthVariable (.text t)))
  | .whole w => .ok w.toInt
  | .real .nan => .error (.refused (.notNumeral lengthVariable (.real .nan)))
  | .real x =>
    match x.truncate? with
    | some n => .ok n
    | none => .error .tooLarge
  | _ => .error .wrongKind

def settings (e : Environment) : Outcome Settings := do
  let shortLength ← match e.value? lengthVariable with
    | none => pure none
    | some d => do pure (some (Datum.ofInt (← readLength d)))
  return { Settings.empty with
    preferredDateTime := e.value? (templateVariable .datetime)
    preferredDate := e.value? (templateVariable .date)
    preferredTime := e.value? (templateVariable .time)
    shortLength }

end Environment

/-- Options from an environment under keywords, which win over it. The environment is read first. -/
def Options.ofEnvironment (e : Environment) (k : Keywords) : Outcome Options := do
  let base ← e.settings
  Options.ofKeywords { k with settings := k.settings.onto base }

end CalendarText
