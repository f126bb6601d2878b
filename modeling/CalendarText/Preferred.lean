import CalendarText.Text

/-! The three directives that stand for a whole template, which the options name. -/

namespace CalendarText

inductive Preferred where
  | datetime
  | date
  | time
  deriving DecidableEq, Repr

namespace Preferred

def all : List Preferred := [datetime, date, time]

def letter : Preferred → Char
  | datetime => 'c'
  | date => 'x'
  | time => 'X'

/-- The option that holds the template. -/
def option : Preferred → Text
  | datetime => "preferred_datetime".toList
  | date => "preferred_date".toList
  | time => "preferred_time".toList

def ofLetter? (c : Char) : Option Preferred :=
  all.find? (·.letter == c)

theorem mem_all (p : Preferred) : p ∈ all := by
  cases p <;> decide

theorem ofLetter?_letter (p : Preferred) : ofLetter? p.letter = some p := by
  cases p <;> rfl

end Preferred

end CalendarText
