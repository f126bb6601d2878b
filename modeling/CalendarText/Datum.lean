import CalendarText.Text.Quoted
import CalendarText.Binary64.Shortest

/-! Data whose shape nobody has checked yet: the arguments of constructors, the entries of maps, the
names in a table. Each datum has a kind, a plain text and an expression, the text it is written
as inside other data. A datum that holds a number with too many digits cannot be written. -/

namespace CalendarText

inductive Datum where
  | null
  | whole (w : Whole)
  | real (x : Binary64)
  | text (t : Text)
  | list (items : List Datum)
  | tuple (items : List Datum)
  | record (entries : List (Text × Datum))
  /-- An object that is none of these, such as a function: it is known by its kind and by the text
  it is written as. -/
  | object (kind written : Text)
  deriving Repr

namespace Datum

instance : Coe Whole Datum := ⟨whole⟩

instance : Inhabited Datum := ⟨null⟩

def ofInt (n : Int) : Datum :=
  whole (.number n)

def kind : Datum → Text
  | null => "NoneType".toList
  | whole (.number _) => "int".toList
  | whole (.flag _) => "bool".toList
  | real _ => "float".toList
  | text _ => "str".toList
  | list _ => "list".toList
  | tuple _ => "tuple".toList
  | record _ => "dict".toList
  | object kind _ => kind

def isNull : Datum → Bool
  | null => true
  | _ => false

/-- Zero, nothing and whatever is empty count as false. -/
def truthy : Datum → Bool
  | null => false
  | whole w => w.toInt != 0
  | real x => !x.isZero
  | text t => !t.isEmpty
  | list items => !items.isEmpty
  | tuple items => !items.isEmpty
  | record entries => !entries.isEmpty
  | object _ _ => true

/-- The number of characters, items or entries, for data that have any. -/
def size? : Datum → Option Nat
  | text t => some t.length
  | list items => some items.length
  | tuple items => some items.length
  | record entries => some entries.length
  | _ => none

def comma : Text := ", ".toList

mutual

def expression : Datum → Text
  | null => "None".toList
  | whole w => w.plain
  | real x => x.plain
  | text t => quoted t
  | list items => '[' :: joinWith comma (expressions items) ++ [']']
  | tuple [item] => '(' :: expression item ++ ",)".toList
  | tuple items => '(' :: joinWith comma (expressions items) ++ [')']
  | record entries => '\x7b' :: joinWith comma (entryExpressions entries) ++ ['\x7d']
  | object _ written => written

def expressions : List Datum → List Text
  | [] => []
  | item :: rest => expression item :: expressions rest

def entryExpressions : List (Text × Datum) → List Text
  | [] => []
  | (key, value) :: rest =>
    (quoted key ++ ": ".toList ++ expression value) :: entryExpressions rest

end

/-- A text stands for itself; all else is written as an expression. -/
def plain : Datum → Text
  | text t => t
  | d => d.expression

mutual

/-- Whether every number in a datum is short enough to be written. -/
def isWritable : Datum → Bool
  | whole w => w.isWritable
  | list items => areWritable items
  | tuple items => areWritable items
  | record entries => entriesAreWritable entries
  | _ => true

def areWritable : List Datum → Bool
  | [] => true
  | item :: rest => isWritable item && areWritable rest

def entriesAreWritable : List (Text × Datum) → Bool
  | [] => true
  | (_, value) :: rest => isWritable value && entriesAreWritable rest

end

@[simp] theorem isWritable_whole (w : Whole) : (whole w).isWritable = w.isWritable := by
  simp [isWritable]

@[simp] theorem isWritable_ofInt (n : Int) : (ofInt n).isWritable = isShort n :=
  isWritable_whole _

@[simp] theorem isWritable_text (t : Text) : (text t).isWritable = true := by
  simp [isWritable]

end Datum

end CalendarText
