import CalendarText.Failure

/-! Texts with slots for one whole number. A slot is a percent sign, flags, a width, a precision after
a point, a letter that tells the size of the number and is not looked at, and the conversion. A
star stands for the number itself as a width or a precision. The number has to be used exactly
once, and two percent signs stand for one. -/

namespace CalendarText

structure Slot where
  onLeft : Bool
  plus : Bool
  blank : Bool
  marked : Bool
  zeros : Bool
  width : Nat
  precision : Option Nat

namespace Slot

def plain : Slot := ⟨false, false, false, false, false, 0, none⟩

def readFlags (s : Slot) : Text → Slot × Text
  | '-' :: rest => readFlags { s with onLeft := true } rest
  | '+' :: rest => readFlags { s with plus := true } rest
  | ' ' :: rest => readFlags { s with blank := true } rest
  | '#' :: rest => readFlags { s with marked := true } rest
  | '0' :: rest => readFlags { s with zeros := true } rest
  | t => (s, t)

/-- A number at the start of a text, or a star for the number that is filled in; the last part tells
whether it was a star. -/
def readCount (n : Nat) : Text → Nat × Text × Bool
  | '*' :: rest => (n, rest, true)
  | t => (numeralValue (t.takeWhile isDecimalDigit), t.dropWhile isDecimalDigit, false)

def sign (s : Slot) : Text :=
  if s.plus then ['+'] else if s.blank then [' '] else []

def place (s : Slot) (t : Text) : Text :=
  let missing := List.replicate (s.width - t.length) ' '
  if s.onLeft then t ++ missing else missing ++ t

/-- A number brought to the width, by zeros after its sign if the slot asks for them. -/
def placeNumber (s : Slot) (start digits : Text) : Text :=
  if s.zeros && !s.onLeft then
    start ++ List.replicate (s.width - start.length - digits.length) '0' ++ digits
  else s.place (start ++ digits)

def placeDigits (s : Slot) (start digits : Text) : Text :=
  s.placeNumber (s.sign ++ start)
    (List.replicate (s.precision.getD 0 - digits.length) '0' ++ digits)

/-- The digits of a number after the first `places`, and the power of ten of the first one; what is
cut off is rounded. -/
def leadingDigits (n places : Nat) : Text × Nat :=
  let size := (numeral n).length
  if size ≤ places + 1 then (numeral n ++ List.replicate (places + 1 - size) '0', size - 1)
  else
    let digits := numeral (Binary64.roundedQuotient n (Nat.pow 10 (size - places - 1)))
    (digits.take (places + 1), size - 1 + (digits.length - places - 1))

def afterPoint (s : Slot) (digits : Text) : Text :=
  if digits = [] then (if s.marked then ['.'] else []) else '.' :: digits

def withExponent (s : Slot) (letter : Char) (digits : Text) (exponent : Nat) : Text :=
  digits.take 1 ++ s.afterPoint (digits.drop 1) ++ letter :: '+' ::
    (List.replicate (2 - (numeral exponent).length) '0' ++ numeral exponent)

def withoutTrailingZeros (digits : Text) : Text :=
  (digits.reverse.dropWhile (· = '0')).reverse

/-- The shorter of the two notations, at a number of digits in all. -/
def general (s : Slot) (letter : Char) (n : Nat) : Text :=
  let count := max (s.precision.getD 6) 1
  let (digits, exponent) := leadingDigits n (count - 1)
  let tail (t : Text) : Text := if s.marked then t else withoutTrailingZeros t
  if exponent < count then
    digits.take (exponent + 1) ++ s.afterPoint (tail (digits.drop (exponent + 1)))
  else s.withExponent letter (digits.take 1 ++ tail (digits.drop 1)) exponent

def convert (s : Slot) (n : Nat) (conversion : Char) : Outcome Text :=
  let mark (t : Text) : Text := if s.marked then t else []
  match conversion with
  | 'd' | 'i' | 'u' => .ok (s.placeDigits [] (numeral n))
  | 'o' => .ok (s.placeDigits (mark ['0', 'o']) (Nat.toDigits 8 n))
  | 'x' => .ok (s.placeDigits (mark ['0', 'x']) (Nat.toDigits 16 n))
  | 'X' => .ok (s.placeDigits (mark ['0', 'X']) ((Nat.toDigits 16 n).map Char.toUpper))
  | 's' | 'r' | 'a' => .ok (s.place ((numeral n).take (s.precision.getD (numeral n).length)))
  | 'c' => .ok (s.place [Char.ofNat n])
  | 'f' | 'F' =>
    .ok (s.placeNumber s.sign (numeral n ++ s.afterPoint (List.replicate (s.precision.getD 6) '0')))
  | 'e' =>
    let (digits, exponent) := leadingDigits n (s.precision.getD 6)
    .ok (s.placeNumber s.sign (s.withExponent 'e' digits exponent))
  | 'E' =>
    let (digits, exponent) := leadingDigits n (s.precision.getD 6)
    .ok (s.placeNumber s.sign (s.withExponent 'E' digits exponent))
  | 'g' => .ok (s.placeNumber s.sign (s.general 'e' n))
  | 'G' => .ok (s.placeNumber s.sign (s.general 'E' n))
  | _ => .error .wrongValue

/-- Reads a slot after its percent sign. It gives the text in its place, what follows, and whether the
number has been used, given whether it was used before. -/
def fill (n : Nat) (used : Bool) (t : Text) : Outcome (Text × Text × Bool) := do
  if t.head? = some '(' then throw .wrongKind
  let (flagged, t) := plain.readFlags t
  let (width, t, isStar) := readCount n t
  if used && isStar then throw .wrongKind
  let used := used || isStar
  let (precision, t, used) ← (match t with
    | '.' :: t =>
      let (precision, t, isStar) := readCount n t
      if used && isStar then .error .wrongKind else .ok (some precision, t, used || isStar)
    | t => .ok (none, t, used) : Outcome (Option Nat × Text × Bool))
  let t := match t with
    | 'h' :: t | 'l' :: t | 'L' :: t => t
    | t => t
  match t with
  | [] => throw .wrongValue
  | conversion :: rest =>
    if used then throw .wrongKind
    return (← convert { flagged with width, precision } n conversion, rest, true)

end Slot

/-- Fills the slots that are left, with fuel for one step per character. -/
def fillFrom (n : Nat) : Nat → Bool → Text → Outcome Text
  | _, used, [] => if used then .ok [] else .error .wrongKind
  | 0, _, _ => .error .wrongValue
  | fuel + 1, used, '%' :: '%' :: rest => do
    return '%' :: (← fillFrom n fuel used rest)
  | fuel + 1, used, '%' :: rest => do
    let (filled, rest, used) ← Slot.fill n used rest
    return filled ++ (← fillFrom n fuel used rest)
  | fuel + 1, used, c :: rest => do
    return c :: (← fillFrom n fuel used rest)

def fillSlots (t : Text) (n : Nat) : Outcome Text :=
  fillFrom n t.length false t

end CalendarText
