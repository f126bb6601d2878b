import CalendarText.Text

/-! Numbers with a fraction, kept to 53 binary digits. A finite number is a count of the smallest
positive one, so that sums and comparisons are those of integers. Every operation takes the exact
result and rounds it once: to the nearest number, and from half way between two to the one with an
even last binary digit. A result too large for the format is infinite. -/

namespace CalendarText

inductive Binary64 where
  | finite (negative : Bool) (units : Nat)
  | infinite (negative : Bool)
  | nan
  deriving DecidableEq, Repr

namespace Binary64

def powerOfTwo (n : Nat) : Nat :=
  Nat.pow 2 n

theorem powerOfTwo_pos (n : Nat) : 0 < powerOfTwo n :=
  Nat.two_pow_pos n

/-- The number of units in one. -/
def one : Nat :=
  powerOfTwo 1074

theorem one_pos : 0 < one :=
  powerOfTwo_pos 1074

def largest : Nat :=
  (powerOfTwo 53 - 1) * powerOfTwo 2045

/-- The integer nearest to a quotient, the even one of two equally near. -/
def roundedQuotient (n d : Nat) : Nat :=
  let q := n / d
  let r := n % d
  if 2 * r < d then q
  else if d < 2 * r then q + 1
  else q + q % 2

/-- The distance between neighbours near a count of units. -/
def spacing (units : Nat) : Nat :=
  powerOfTwo (units.log2 - 52)

/-- The units of the number nearest to `n / d` units. -/
def nearestUnits (n d : Nat) : Nat :=
  let gap := spacing (n / d)
  roundedQuotient n (d * gap) * gap

def ofUnits (negative : Bool) (n d : Nat) : Binary64 :=
  let units := nearestUnits n d
  if largest < units then infinite negative else finite negative units

def ofInt (n : Int) : Binary64 :=
  ofUnits (n < 0) (n.natAbs * one) 1

/-- The number nearest to `digits` times a power of ten. Far outside of the range of the format the
power is not worked out. -/
def ofDecimal (negative : Bool) (digits : Nat) (exponent : Int) : Binary64 :=
  let size : Int := (numeral digits).length + exponent
  if digits = 0 ∨ size < -330 then finite negative 0
  else if 310 < size then infinite negative
  else
    ofUnits negative (digits * Nat.pow 10 exponent.toNat * one) (Nat.pow 10 (-exponent).toNat)

def isNegative : Binary64 → Bool
  | finite negative _ => negative
  | infinite negative => negative
  | nan => false

def isZero : Binary64 → Bool
  | finite _ units => units == 0
  | _ => false

def neg : Binary64 → Binary64
  | finite negative units => finite (!negative) units
  | infinite negative => infinite (!negative)
  | nan => nan

def abs : Binary64 → Binary64
  | finite _ units => finite false units
  | infinite _ => infinite false
  | nan => nan

def signedUnits (negative : Bool) (units : Nat) : Int :=
  if negative then -units else units

def add : Binary64 → Binary64 → Binary64
  | finite a u, finite b v =>
    let sum := signedUnits a u + signedUnits b v
    if sum = 0 then finite (a && b) 0 else ofUnits (sum < 0) sum.natAbs 1
  | infinite a, infinite b => if a = b then infinite a else nan
  | infinite a, finite _ _ => infinite a
  | finite _ _, infinite b => infinite b
  | _, _ => nan

def sub (x y : Binary64) : Binary64 :=
  x.add y.neg

def mul : Binary64 → Binary64 → Binary64
  | finite a u, finite b v => ofUnits (a != b) (u * v) one
  | nan, _ => nan
  | _, nan => nan
  | x, y => if x.isZero || y.isZero then nan else infinite (x.isNegative != y.isNegative)

def floor : Binary64 → Binary64
  | finite negative units =>
    finite negative ((units / one + if negative && units % one != 0 then 1 else 0) * one)
  | x => x

def remainder (x : Binary64) (n : Nat) : Binary64 :=
  match x with
  | finite negative units =>
    let rest := units % (n * one)
    if negative && rest != 0 then (finite true rest).add (ofInt n) else finite false rest
  | _ => nan

/-- The quotient by a positive integer, rounded down. It is worked out from the number less its
remainder, and each step is rounded. -/
def quotient (x : Binary64) (n : Nat) : Binary64 :=
  match x with
  | finite negative units =>
    let rest := units % (n * one)
    let exact := ofUnits negative (nearestUnits (units - rest) 1) n
    let whole := if negative && rest != 0 then exact.sub (ofInt 1) else exact
    if whole.isZero then finite negative 0
    else
      match whole, whole.floor with
      | finite a u, finite b v =>
        if (one : Int) < 2 * (signedUnits a u - signedUnits b v) then (finite b v).add (ofInt 1)
        else finite b v
      | _, below => below
  | _ => nan

def truncate? : Binary64 → Option Int
  | finite negative units => some (signedUnits negative (units / one))
  | _ => none

end Binary64

end CalendarText
