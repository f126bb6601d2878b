import CalendarText.Text.Ranges

/-! Reading an integer from text that a person typed: white space around it, one sign directly
before the digits, single underscores between digits, and decimal digits of any script. -/

namespace CalendarText

/-- The code points of the digits zero; each is followed by its digits one to nine. -/
def digitZeros : List Nat := [
  48, 1632, 1776, 1984, 2406, 2534, 2662, 2790, 2918, 3046,
  3174, 3302, 3430, 3558, 3664, 3792, 3872, 4160, 4240, 6112,
  6160, 6470, 6608, 6784, 6800, 6992, 7088, 7232, 7248, 42528,
  43216, 43264, 43472, 43504, 43600, 44016, 65296, 66720, 68912, 69734,
  69872, 69942, 70096, 70384, 70736, 70864, 71248, 71360, 71472, 71904,
  72016, 72784, 73040, 73120, 92768, 92864, 93008, 120782, 120792, 120802,
  120812, 120822, 123200, 123632, 125264, 130032]

/-- The value of a decimal digit of any script. -/
def digitOf? (c : Char) : Option Nat :=
  (digitZeros.find? fun z => z ≤ c.toNat && c.toNat ≤ z + 9).map fun z =>
    c.toNat - z

/-- White space around a number: tab to carriage return, the space, and the space and line
separators beyond the first 127 code points. -/
def isBlank : Char → Bool :=
  inRanges [(9, 13), (32, 32), (133, 133), (160, 160), (5760, 5760), (8192, 8202), (8232, 8233),
    (8239, 8239), (8287, 8287), (12288, 12288)]

/-- The digits of a number in which single underscores may stand between two digits. -/
def digitsOf? : Text → Option (List Nat)
  | [] => none
  | [c] => (digitOf? c).map ([·])
  | c :: '_' :: rest => do return (← digitOf? c) :: (← digitsOf? rest)
  | c :: d :: rest => do return (← digitOf? c) :: (← digitsOf? (d :: rest))

def naturalOf? (t : Text) : Option Nat := do
  let digits ← digitsOf? t
  if maxDigits < digits.length then none
  else return digits.foldl (fun n d => 10 * n + d) 0

/-- The integer that a text spells, if it spells one. -/
def readInteger? (t : Text) : Option Int :=
  match ((t.dropWhile isBlank).reverse.dropWhile isBlank).reverse with
  | '-' :: digits => (naturalOf? digits).map fun n => -(n : Int)
  | '+' :: digits => (naturalOf? digits).map fun n => (n : Int)
  | digits => (naturalOf? digits).map fun n => (n : Int)

end CalendarText
