import CalendarText.Binary64

/-! The text of a number with a fraction: the fewest decimal digits that read back to it, and of
several equally short ones the nearest. They are written with a point from 0.0001 on and below
10^16, and otherwise with an exponent that has a sign and at least two digits. -/

namespace CalendarText.Binary64

/-- Digits times a power of ten. -/
structure Numeral where
  digits : Nat
  exponent : Int
  deriving DecidableEq, Repr

/-- Whether the numeral rounds to the number with that many units. The numbers that do lie between
the middles to both neighbours, which belong to it when its last binary digit is even. Below a
power of two the neighbour is nearer. All are compared in quarters of a unit. -/
def readsBack (units : Nat) (d : Numeral) : Bool :=
  let gap := spacing units
  let isNarrow := units == powerOfTwo 52 * gap && gap != 1
  let scale := Nat.pow 10 (-d.exponent).toNat
  let low := (4 * units - if isNarrow then gap else 2 * gap) * scale
  let high := (4 * units + 2 * gap) * scale
  let at4 := 4 * d.digits * Nat.pow 10 d.exponent.toNat * one
  (low < at4 && at4 < high) || (units / gap % 2 == 0 && (low == at4 || at4 == high))

/-- The number of digits in front of the point; below a tenth, less the zeros that follow the
point. -/
def wholeDigits (units : Nat) : Int :=
  if one ≤ units then (numeral (units / one)).length
  else 1 - (numeral ((one - 1) / units)).length

/-- The numeral of so many digits that reads back, if there is one: of the two around the number the
nearer, and the even one of two equally near. -/
def numeralOf? (units count : Nat) : Option Numeral :=
  let exponent := wholeDigits units - count
  let n := units * Nat.pow 10 (-exponent).toNat
  let d := one * Nat.pow 10 exponent.toNat
  let below : Numeral := ⟨n / d, exponent⟩
  let above : Numeral := ⟨n / d + 1, exponent⟩
  match readsBack units below, readsBack units above with
  | true, true => some ⟨roundedQuotient n d, exponent⟩
  | true, false => some below
  | false, true => some above
  | false, false => none

/-- The shortest numeral of a positive number. Seventeen digits are enough; the last resort is the
number itself, which is a decimal too. -/
def shortest (units : Nat) : Numeral :=
  ((List.range' 1 17).findSome? (numeralOf? units)).getD ⟨units * Nat.pow 5 1074, -1074⟩

def zeros (n : Nat) : Text :=
  List.replicate n '0'

/-- Digits of which the first stands for so many powers of ten. -/
def layout (digits : Text) (leading : Int) : Text :=
  if leading < -4 ∨ 16 ≤ leading then
    digits.take 1 ++ (if digits.length ≤ 1 then [] else '.' :: digits.drop 1) ++
      'e' :: (if leading < 0 then '-' else '+') ::
      (zeros (2 - (numeral leading.natAbs).length) ++ numeral leading.natAbs)
  else if leading < 0 then
    '0' :: '.' :: zeros (-leading - 1).toNat ++ digits
  else
    let n := leading.toNat + 1
    digits.take n ++ zeros (n - digits.length) ++ '.' ::
      (if digits.length ≤ n then ['0'] else digits.drop n)

/-- The text of a finite number without its sign. -/
def magnitudeText (units : Nat) : Text :=
  if units = 0 then "0.0".toList
  else
    let d := shortest units
    let digits := numeral d.digits
    layout (digits.reverse.dropWhile (· = '0')).reverse (digits.length - 1 + d.exponent)

def plain : Binary64 → Text
  | finite negative units => (if negative then ['-'] else []) ++ magnitudeText units
  | infinite false => "inf".toList
  | infinite true => "-inf".toList
  | nan => "nan".toList

end CalendarText.Binary64
