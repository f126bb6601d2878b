import CalendarText.Text.Printing
import CalendarText.Text.Padding

/-! A text in quotes. The quotes are single, or double around a text that holds a single quote and
no double one. The quote in use and the backslash are written after a backslash, line feed,
carriage return and tab as letters, and other characters that do not print as code points in
hexadecimal. -/

namespace CalendarText

def singleQuote : Char := '\''

def doubleQuote : Char := '"'

/-- The quote that goes around a text. -/
def quoteMark (t : Text) : Char :=
  if singleQuote ∈ t ∧ doubleQuote ∉ t then doubleQuote else singleQuote

/-- The least of two, four and eight hexadecimal digits that hold the code point, after a letter
that tells how many there are. -/
def codePointEscape (c : Char) : Text :=
  let digits := Nat.toDigits 16 c.toNat
  if c.toNat < 0x100 then 'x' :: padLeading digits 2 zeroFill
  else if c.toNat < 0x10000 then 'u' :: padLeading digits 4 zeroFill
  else 'U' :: padLeading digits 8 zeroFill

/-- One character between quotes of the given kind. -/
def quotedChar (mark c : Char) : Text :=
  if c = mark ∨ c = '\\' then ['\\', c]
  else if c = '\n' then ['\\', 'n']
  else if c = '\r' then ['\\', 'r']
  else if c = '\t' then ['\\', 't']
  else if isPrinting c then [c]
  else '\\' :: codePointEscape c

def quoted (t : Text) : Text :=
  quoteMark t :: t.flatMap (quotedChar (quoteMark t)) ++ [quoteMark t]

end CalendarText
