import CalendarText.Limits
import CalendarText.Field

/-! The view of a calendar value that the directives read: which fields it carries, their data, and
the kind of value they came from. A field that is not there is reported when it is asked for. -/

namespace CalendarText

structure Fields where
  kind : Datum
  value? : Field → Option Datum

namespace Fields

def bareKind : Datum := .text "value".toList

def ofEntries (kind : Datum) (entries : List (Text × Datum)) : Fields :=
  ⟨kind, fun f => entries.lookup f.name⟩

/-- The view of what a value publishes. A collection of another shape can stand in as long as no
field name is found in it. -/
def ofPublished (kind : Datum) : Datum → Outcome Fields
  | .record entries => .ok (ofEntries kind entries)
  | .list items => withoutNames items
  | .tuple items => withoutNames items
  | .text t =>
    if Field.all.any fun f => holdsText f.name t then .error .wrongKind
    else .ok ⟨kind, fun _ => none⟩
  | _ => .error .wrongKind
where
  withoutNames (items : List Datum) : Outcome Fields :=
    if Field.all.any fun f => items.any (·.sameScalar (.text f.name)) then .error .wrongKind
    else .ok ⟨kind, fun _ => none⟩

/-- The datum under a name. What holds other data cannot be a name, and other data than texts are
names of nothing. -/
def named? (f : Fields) : Datum → Outcome (Option Datum)
  | .text t => .ok ((Field.ofName? t).bind f.value?)
  | .list _ | .record _ => .error .wrongKind
  | _ => .ok none

def has (f : Fields) (name : Datum) : Outcome Bool := do
  return (← f.named? name).isSome

def get (f : Fields) (name default : Datum) : Outcome Datum := do
  return (← f.named? name).getD default

/-- The datum of a field, or the failure that names who asked for it. -/
def require (f : Fields) (field : Field) (directive : Datum) : Outcome Datum :=
  match f.value? field with
  | some d => .ok d
  | none => .error (.missingField (.text field.name) f.kind directive)

def requireNamed (f : Fields) (name directive : Datum) : Outcome Datum := do
  match ← f.named? name with
  | some d => return d
  | none => .error (Failure.missingField name f.kind directive).raised

def isAware (f : Fields) : Bool :=
  (f.value? .utcOffset).isSome && (f.value? .stdOffset).isSome

/-- The fraction of a second as a pair with its precision; a bare number has full precision. -/
def fraction (f : Fields) (directive : Datum) : Outcome Datum := do
  match ← f.require .microsecond directive with
  | .tuple pair => return .tuple pair
  | d => return .tuple [d, .ofInt maxPrecision]

def dayOfWeek (f : Fields) (directive : Datum) : Outcome Datum := do
  let year ← f.require .year directive
  let month ← f.require .month directive
  let day ← f.require .day directive
  Gregorian.Unchecked.dayOfWeek year month day

def dayOfYear (f : Fields) (directive : Datum) : Outcome Datum := do
  let year ← f.require .year directive
  let month ← f.require .month directive
  let day ← f.require .day directive
  Gregorian.Unchecked.dayOfYear year month day

def quarter (f : Fields) (directive : Datum) : Outcome Datum := do
  Gregorian.Unchecked.quarter (← f.require .month directive)

def expression (f : Fields) : Outcome Text :=
  let entries : Datum := .record (Field.all.filterMap fun x =>
    (f.value? x).map fun d => (x.name, d))
  if entries.isWritable && f.kind.isWritable then
    .ok ("CalendarFields(".toList ++ entries.expression ++ ", ".toList ++ f.kind.expression ++ [')'])
  else .error .tooLong

end Fields

end CalendarText
