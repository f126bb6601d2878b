import CalendarText.Meridiem

/-! Names for numbered things. A source of names is a table with exactly as many names as there are
things, or a rule that may fail. A naming answers for an index from one to its size; it can be
shortened, which cuts every name it gives to the same length. -/

namespace CalendarText

/-- Names for keys of one type; a table has exactly `size` of them. -/
inductive NameSource (κ : Type) (size : Int) where
  | table (names : List Datum) (fits : (names.length : Int) = size)
  | rule (name : κ → Outcome Datum)

inductive Names (κ : Type) where
  | table (names : List Datum)
  | rule (name : κ → Outcome Datum)

/-- What is set in the place of names: a rule if it can be called, and a datum if it cannot. -/
inductive NameSetting (κ : Type) where
  | datum (d : Datum)
  | rule (name : κ → Outcome Datum)

namespace NameSource

def names? {κ : Type} {size : Int} : NameSource κ size → Option (List Datum)
  | table names _ => some names
  | rule _ => none

def plain {κ : Type} {size : Int} : NameSource κ size → Names κ
  | table names _ => .table names
  | rule name => .rule name

def setting {κ : Type} {size : Int} : NameSource κ size → NameSetting κ
  | table names _ => .datum (.tuple names)
  | rule name => .rule name

end NameSource

namespace NameSetting

def isNull {κ : Type} : NameSetting κ → Bool
  | datum d => d.isNull
  | rule _ => false

/-- The table a datum holds, if it has the right number of names. -/
def tableOf {κ : Type} (label : Text) (size : Int) (names : List Datum) :
    Outcome (NameSource κ size) :=
  if h : (names.length : Int) = size then .ok (.table names h)
  else .error (.refused (.wrongCount (.text label) (.ofInt size) names.length))

/-- A source of exactly `size` names; the label says what is being named. -/
def check {κ : Type} (label : Text) (size : Int) : NameSetting κ → Outcome (NameSource κ size)
  | rule name => .ok (.rule name)
  | datum (.list names) => tableOf label size names
  | datum (.tuple names) => tableOf label size names
  | datum d => .error (.refused (.notNames (.text label) d.kind))

end NameSetting

/-- The first part of a text or of a list of items. A negative length leaves that many off at the
end, and no length at all keeps everything. -/
def Datum.firstPart (d : Datum) (length : Datum) : Outcome Datum :=
  match length with
  | .null => cut fun xs => xs.length
  | .whole w =>
    cut fun xs => if 0 ≤ w.toInt then w.toInt.toNat else (xs.length + w.toInt).toNat
  | _ => .error .wrongKind
where
  cut (count : {α : Type} → List α → Nat) : Outcome Datum :=
    match d with
    | .text t => .ok (.text (t.take (count t)))
    | .list items => .ok (.list (items.take (count items)))
    | .tuple items => .ok (.tuple (items.take (count items)))
    | _ => .error .wrongKind

structure Naming where
  label : Datum
  size : Datum
  names : Names Whole

namespace Naming

/-- A naming whose label and size are unchecked. A table must have as many names as the size says,
while a rule is taken as it is. -/
def make (source : NameSetting Whole) (size label : Datum) : Outcome Naming :=
  match source with
  | .rule name => .ok ⟨label, size, .rule name⟩
  | .datum d =>
    match d with
    | .list names | .tuple names =>
      if (Datum.ofInt names.length).sameScalar size then .ok ⟨label, size, .table names⟩
      else .error (Failure.refused (.wrongCount label size names.length)).raised
    | d => .error (Failure.refused (.notNames label d.kind)).raised

/-- The name of an index, which must be a whole number from one to the size. -/
def name (n : Naming) (index : Datum) : Outcome Datum := do
  match index with
  | .whole w =>
    let isInside ←
      if 1 ≤ w.toInt then do pure ((Number.whole w.toInt).le (← n.size.toNumber)) else pure false
    if isInside then
      match n.names with
      | .table names =>
        match names[(w.toInt - 1).toNat]? with
        | some name => return name
        | none => .error .noEntry
      | .rule name => name w
    else .error (Failure.refused (.indexOutOfRange n.label n.size index)).raised
  | index => .error (Failure.refused (.indexOutOfRange n.label n.size index)).raised

def shortened (n : Naming) (length : Datum) : Naming :=
  ⟨n.label, n.size, .rule fun w => do (← n.name (.whole w)).firstPart length⟩

def expression? (n : Naming) : Option (Outcome Text) :=
  match n.names with
  | .table names =>
    some (if (Datum.tuple [.tuple names, n.size, n.label]).isWritable then
      .ok ("NameResolver(".toList ++ (Datum.tuple names).expression ++ ", ".toList ++
        n.size.plain ++ ", ".toList ++ n.label.expression ++ [')'])
    else .error .tooLong)
  | .rule _ => none

end Naming

end CalendarText
