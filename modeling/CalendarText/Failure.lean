import CalendarText.Datum
import CalendarText.Preferred

/-! What can go wrong, by cause. A refusal is a value or a setting that a check turns down; the
other causes are found while a template is rendered, or when data of the wrong shape reach a
computation. The wording of every cause is here and nowhere else. A message is written when its
cause is reported, and where it names a number that is too long to be written that is reported
instead. -/

namespace CalendarText

inductive Refusal where
  /-- A component is of a kind other than integer. -/
  | notInteger (name : Datum) (kind : Text)
  | outOfRange (name least most got : Datum)
  | noSuchDay (most : Int) (year : Datum) (month : Int) (got : Datum)
  | notText (name kind : Text)
  | notZone (kind : Text)
  | minutesOutOfRange (got : Datum)
  /-- A name table with another number of names than it must have. -/
  | wrongCount (label size : Datum) (count : Nat)
  | notNames (label : Datum) (kind : Text)
  | indexOutOfRange (label size got : Datum)
  | badLength (got : Datum)
  | badHalves (got : Datum)
  | notNumeral (name : Text) (got : Datum)

inductive SectionFault where
  | unknown
  | unfinished
  deriving DecidableEq, Repr

inductive Failure where
  | refused (reason : Refusal)
  /-- A field that was asked for by a directive, or on no directive's behalf when that is null. -/
  | missingField (field kind directive : Datum)
  | malformed (fault : SectionFault) (written : Text) (position : Nat)
  | cyclic (directive : Preferred)
  | templateNotText (kind : Text)
  | notCalendar (kind : Text)
  | noSuchMonth (month : Datum)
  /-- A naming rule failed with a message of its own. -/
  | rule (message : Text)
  /-- Data of a kind that the operation is not defined for. -/
  | wrongKind
  /-- Data of the right kind with a value that the operation is not defined for. -/
  | wrongValue
  | noAttribute
  | noEntry
  | noKey
  /-- A whole number beyond the numbers with a fraction that it has to be counted among. -/
  | tooLarge
  /-- A whole number with more digits than are written. -/
  | tooLong
  | unknownKeyword
  /-- An option that only the library itself sets. -/
  | reservedKeyword
  /-- Options do not change once they are made. -/
  | frozen

namespace Refusal

def message : Refusal → Text
  | notInteger name kind => name.plain ++ " must be an integer, got ".toList ++ kind
  | outOfRange name least most got =>
    name.plain ++ " must be between ".toList ++ least.plain ++ " and ".toList ++ most.plain ++
      ", got ".toList ++ got.plain
  | noSuchDay most year month got =>
    "day must be between 1 and ".toList ++ signedNumeral most ++ " for ".toList ++ year.plain ++
      '-' :: padNumber month 2 zeroFill ++ ", got ".toList ++ got.plain
  | notText name kind => name ++ " must be a string, got ".toList ++ kind
  | notZone kind => "zone must be a Zone, got ".toList ++ kind
  | minutesOutOfRange got => "minutes must be 0-59, got ".toList ++ got.plain
  | wrongCount label size count =>
    label.plain ++ " names must have exactly ".toList ++ size.plain ++ " entries, got ".toList ++
      numeral count
  | notNames label kind =>
    label.plain ++ " names must be a sequence or a callable, got ".toList ++ kind
  | indexOutOfRange label size got =>
    label.plain ++ " index must be between 1 and ".toList ++ size.plain ++ ", got ".toList ++
      got.plain
  | badLength got =>
    "abbreviation_size must be a non-negative integer, got ".toList ++ got.expression
  | badHalves got =>
    "am_pm_names must be an (am, pm) pair or a callable, got ".toList ++ got.expression
  | notNumeral name got => name ++ " must be an integer, got ".toList ++ got.expression

/-- Whether every number in the message is short enough to be written. -/
def isWritable : Refusal → Bool
  | notInteger name _ => name.isWritable
  | outOfRange name least most got =>
    name.isWritable && least.isWritable && most.isWritable && got.isWritable
  | noSuchDay most year month got =>
    isShort most && year.isWritable && isShort month && got.isWritable
  | notText _ _ => true
  | notZone _ => true
  | minutesOutOfRange got => got.isWritable
  | wrongCount label size _ => label.isWritable && size.isWritable
  | notNames label _ => label.isWritable
  | indexOutOfRange label size got => label.isWritable && size.isWritable && got.isWritable
  | badLength got => got.isWritable
  | badHalves got => got.isWritable
  | notNumeral _ got => got.isWritable

end Refusal

def SectionFault.reason : SectionFault → Text
  | unknown => "unknown format directive".toList
  | unfinished => "format template ends inside directive".toList

namespace Failure

def message? : Failure → Option Text
  | refused reason => some reason.message
  | missingField field kind .null => some (kind.plain ++ " has no ".toList ++ field.plain)
  | missingField field kind directive =>
    some ("format directive %".toList ++ directive.plain ++ " requires ".toList ++ field.plain ++
      ", but ".toList ++ kind.plain ++ " has no ".toList ++ field.plain)
  | malformed fault written position =>
    some (fault.reason ++ ' ' :: quoted written ++ " at position ".toList ++ numeral position)
  | cyclic directive =>
    some ("tried to format ".toList ++ directive.option ++ " (%".toList ++ directive.letter ::
      ") within another ".toList ++ directive.option ++ " format".toList)
  | templateNotText kind => some ("template must be a string, got ".toList ++ kind)
  | notCalendar kind =>
    some ("expected a Date, Time, DateTime, datetime object or mapping, got ".toList ++ kind)
  | noSuchMonth month => some ("month must be 1-12, got ".toList ++ month.plain)
  | rule message => some message
  | _ => none

/-- Whether the message can be written. The kinds of values and the directives are named by texts. -/
def isWritable : Failure → Bool
  | refused reason => reason.isWritable
  | missingField field _ _ => field.isWritable
  | noSuchMonth month => month.isWritable
  | _ => true

/-- The failure that is reported for a cause. -/
def raised (cause : Failure) : Failure :=
  if cause.isWritable then cause else .tooLong

theorem raised_of_isWritable {cause : Failure} (h : cause.isWritable = true) :
    cause.raised = cause :=
  if_pos h

theorem raised_of_not {cause : Failure} (h : cause.isWritable = false) :
    cause.raised = .tooLong := by
  simp [raised, h]

end Failure

abbrev Outcome (α : Type) := Except Failure α

end CalendarText
