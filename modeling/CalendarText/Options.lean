import CalendarText.Options.Settings

/-! The options of a rendering: the templates that the preferred directives stand for, the names of
months, weekdays and halves of the day, and what happens to unknown directives. Short names are
those of their own tables, or else the full names cut to a fixed length. -/

namespace CalendarText

structure Options where
  preferredDateTime : Text
  preferredDate : Text
  preferredTime : Text
  halfNames : NameSource Meridiem 2
  monthNames : NameSource Whole 12
  shortMonthNames : Option (NameSource Whole 12)
  weekdayNames : NameSource Whole 7
  shortWeekdayNames : Option (NameSource Whole 7)
  shortLength : Nat
  passthrough : Datum

namespace Options

def englishHalves : List Text := ["am".toList, "pm".toList]

def englishMonths : List Text :=
  ["January".toList, "February".toList, "March".toList, "April".toList, "May".toList,
    "June".toList, "July".toList, "August".toList, "September".toList, "October".toList,
    "November".toList, "December".toList]

def englishWeekdays : List Text :=
  ["Monday".toList, "Tuesday".toList, "Wednesday".toList, "Thursday".toList, "Friday".toList,
    "Saturday".toList, "Sunday".toList]

def defaultDateTime : Text := "%Y-%m-%d %H:%M:%S".toList

def defaultDate : Text := "%Y-%m-%d".toList

def defaultTime : Text := "%H:%M:%S".toList

def defaultShortLength : Nat := 3

def default : Options where
  preferredDateTime := defaultDateTime
  preferredDate := defaultDate
  preferredTime := defaultTime
  halfNames := .table (englishHalves.map .text) rfl
  monthNames := .table (englishMonths.map .text) rfl
  shortMonthNames := none
  weekdayNames := .table (englishWeekdays.map .text) rfl
  shortWeekdayNames := none
  shortLength := defaultShortLength
  passthrough := .whole (.flag false)

def monthLabel : Text := "month".toList

def weekdayLabel : Text := "day of week".toList

def checkTemplate (p : Preferred) : Datum → Outcome Text
  | .text t => .ok t
  | d => .error (.refused (.notText p.option d.kind))

/-- A length is a number of characters, not a truth value. -/
def checkLength : Datum → Outcome Nat
  | .whole (.number (.ofNat n)) => .ok n
  | d => .error (Failure.refused (.badLength d)).raised

def checkHalves : NameSetting Meridiem → Outcome (NameSource Meridiem 2)
  | .rule name => .ok (.rule name)
  | .datum d =>
    match d with
    | .list names | .tuple names =>
      if h : (names.length : Int) = 2 then .ok (.table names h)
      else .error (Failure.refused (.badHalves d)).raised
    | d => .error (Failure.refused (.badHalves d)).raised

/-- An absent source of short names is null. -/
def checkShort (label : Text) (size : Int) (s : NameSetting Whole) :
    Outcome (Option (NameSource Whole size)) :=
  if s.isNull then .ok none
  else do return some (← s.check label size)

def settings (o : Options) : Settings where
  preferredDateTime := some (.text o.preferredDateTime)
  preferredDate := some (.text o.preferredDate)
  preferredTime := some (.text o.preferredTime)
  halfNames := some o.halfNames.setting
  monthNames := some o.monthNames.setting
  shortMonthNames := some ((o.shortMonthNames.map (·.setting)).getD (.datum .null))
  weekdayNames := some o.weekdayNames.setting
  shortWeekdayNames := some ((o.shortWeekdayNames.map (·.setting)).getD (.datum .null))
  shortLength := some (.ofInt o.shortLength)
  passthrough := some o.passthrough

/-- The options that settings describe, where unset parts have their defaults. Templates are
checked first, then the length of short names, then the tables: halves, full names, short names. -/
def ofSettings (given : Settings) : Outcome Options := do
  let s := given.onto default.settings
  let preferredDateTime ← checkTemplate .datetime (s.preferredDateTime.getD .null)
  let preferredDate ← checkTemplate .date (s.preferredDate.getD .null)
  let preferredTime ← checkTemplate .time (s.preferredTime.getD .null)
  let shortLength ← checkLength (s.shortLength.getD .null)
  let halfNames ← checkHalves (s.halfNames.getD (.datum .null))
  let monthNames ← (s.monthNames.getD (.datum .null)).check monthLabel 12
  let weekdayNames ← (s.weekdayNames.getD (.datum .null)).check weekdayLabel 7
  let shortMonthNames ← checkShort monthLabel 12 (s.shortMonthNames.getD (.datum .null))
  let shortWeekdayNames ← checkShort weekdayLabel 7 (s.shortWeekdayNames.getD (.datum .null))
  return {
    preferredDateTime, preferredDate, preferredTime, halfNames, monthNames, shortMonthNames,
    weekdayNames, shortWeekdayNames, shortLength, passthrough := s.passthrough.getD .null }

/-- The options that keywords describe; a name that is no keyword is refused before any check. -/
def ofKeywords (k : Keywords) : Outcome Options :=
  if k.unknown = [] then ofSettings k.settings else .error .unknownKeyword

def replace (o : Options) (changes : Settings) : Outcome Options :=
  ofSettings (changes.onto o.settings)

/-- A change by keyword. A derived part cannot be named. -/
def replaceKeywords (o : Options) (k : Keywords) : Outcome Options :=
  if k.unknown.any (· ∈ Keyword.reserved) then .error .reservedKeyword
  else if k.unknown = [] then o.replace k.settings else .error .unknownKeyword

/-- Options are never changed in place. -/
def assign (_ : Options) (_ : Text) : Outcome Options :=
  .error .frozen

def template (o : Options) : Preferred → Text
  | .datetime => o.preferredDateTime
  | .date => o.preferredDate
  | .time => o.preferredTime

def templateOf (o : Options) : Datum → Outcome Text
  | .text [c] =>
    match Preferred.ofLetter? c with
    | some p => .ok (o.template p)
    | none => .error .noKey
  | .list _ => .error .wrongKind
  | .record _ => .error .wrongKind
  | _ => .error .noKey

def halfName (o : Options) (m : Meridiem) : Outcome Datum :=
  match o.halfNames with
  | .table names fits => .ok (names.get ⟨m.index, by cases m <;> simp [Meridiem.index] <;> omega⟩)
  | .rule name => name m

def months (o : Options) : Naming :=
  ⟨.text monthLabel, .ofInt 12, o.monthNames.plain⟩

def weekdays (o : Options) : Naming :=
  ⟨.text weekdayLabel, .ofInt 7, o.weekdayNames.plain⟩

def shortMonths (o : Options) : Naming :=
  match o.shortMonthNames with
  | some source => ⟨.text monthLabel, .ofInt 12, source.plain⟩
  | none => o.months.shortened (.ofInt o.shortLength)

def shortWeekdays (o : Options) : Naming :=
  match o.shortWeekdayNames with
  | some source => ⟨.text weekdayLabel, .ofInt 7, source.plain⟩
  | none => o.weekdays.shortened (.ofInt o.shortLength)

def passesUnknown (o : Options) : Bool :=
  o.passthrough.truthy

def isTableOf {κ : Type} {size : Int} (source : NameSource κ size) (names : List Text) : Bool :=
  match source with
  | .table entries _ =>
    entries.length == names.length &&
      (entries.zip names).all fun e => e.1.sameScalar (.text e.2)
  | .rule _ => false

def isDefault (o : Options) : Bool :=
  o.preferredDateTime == defaultDateTime && o.preferredDate == defaultDate &&
    o.preferredTime == defaultTime && isTableOf o.halfNames englishHalves &&
    isTableOf o.monthNames englishMonths && o.shortMonthNames.isNone &&
    isTableOf o.weekdayNames englishWeekdays && o.shortWeekdayNames.isNone &&
    o.shortLength == defaultShortLength && o.passthrough.sameScalar (.whole (.flag false))

end Options

end CalendarText
