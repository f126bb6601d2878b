import CalendarText.Failure

/-! Numbers are whole or have a fraction. Whole ones are exact. A whole number that meets one with a
fraction is brought to that format first, which fails when it is too large. Comparisons are exact
either way. To write a number fails when it has too many digits. -/

namespace CalendarText

inductive Number where
  | whole (n : Int)
  | real (x : Binary64)
  deriving DecidableEq, Repr

namespace Number

def toDatum : Number → Datum
  | whole n => .ofInt n
  | real x => .real x

/-- The text of a number, unless it is too long. -/
def written : Number → Outcome Text
  | whole n => if isShort n then .ok (signedNumeral n) else .error .tooLong
  | real x => .ok x.plain

/-- A number that a whole number was brought to, unless that one is too large for the format. -/
def withinRange : Binary64 → Outcome Binary64
  | .infinite _ => .error .tooLarge
  | x => .ok x

def toReal : Number → Outcome Binary64
  | whole n => withinRange (Binary64.ofInt n)
  | real x => .ok x

/-- The place of a number among all numbers, in units of the smallest fraction; the first part is
less than zero for negative infinity and greater for positive. -/
def place? : Number → Option (Int × Int)
  | whole n => some (0, n * Binary64.one)
  | real (.finite negative units) => some (0, Binary64.signedUnits negative units)
  | real (.infinite negative) => some (if negative then -1 else 1, 0)
  | real .nan => none

def lt (a b : Number) : Bool :=
  match a.place?, b.place? with
  | some (i, m), some (j, n) => i < j || (i == j && m < n)
  | _, _ => false

def le (a b : Number) : Bool :=
  match a.place?, b.place? with
  | some (i, m), some (j, n) => i < j || (i == j && m ≤ n)
  | _, _ => false

def same (a b : Number) : Bool :=
  match a.place?, b.place? with
  | some p, some q => p == q
  | _, _ => false

def add : Number → Number → Outcome Number
  | whole m, whole n => .ok (whole (m + n))
  | a, b => do return real ((← a.toReal).add (← b.toReal))

def sub : Number → Number → Outcome Number
  | whole m, whole n => .ok (whole (m - n))
  | a, b => do return real ((← a.toReal).sub (← b.toReal))

def mul : Number → Number → Outcome Number
  | whole m, whole n => .ok (whole (m * n))
  | a, b => do return real ((← a.toReal).mul (← b.toReal))

def quotient (a : Number) (n : Nat) : Number :=
  match a with
  | whole m => whole (m / n)
  | real x => real (x.quotient n)

/-- The remainder by a positive integer, which is never negative. -/
def remainder (a : Number) (n : Nat) : Number :=
  match a with
  | whole m => whole (m % n)
  | real x => real (x.remainder n)

def abs : Number → Number
  | whole n => whole n.natAbs
  | real x => real x.abs

theorem one_pos : (0 : Int) < Binary64.one :=
  Int.natCast_pos.mpr Binary64.one_pos

@[simp] theorem lt_whole (m n : Int) : (whole m).lt (whole n) = decide (m < n) := by
  simp only [lt, place?, Int.mul_lt_mul_right one_pos, Int.lt_irrefl, decide_false, beq_self_eq_true,
    Bool.true_and, Bool.false_or]

@[simp] theorem le_whole (m n : Int) : (whole m).le (whole n) = decide (m ≤ n) := by
  simp only [le, place?, Int.mul_le_mul_right one_pos, Int.lt_irrefl, decide_false, beq_self_eq_true,
    Bool.true_and, Bool.false_or]

@[simp] theorem same_whole (m n : Int) : (whole m).same (whole n) = decide (m = n) := by
  have h : m * (Binary64.one : Int) = n * Binary64.one ↔ m = n :=
    Int.mul_eq_mul_right_iff (Int.ne_of_gt one_pos)
  rw [Bool.eq_iff_iff]
  simp only [same, place?, beq_iff_eq, Prod.mk.injEq, true_and, decide_eq_true_eq, h]

@[simp] theorem add_whole (m n : Int) : (whole m).add (whole n) = .ok (whole (m + n)) := rfl

@[simp] theorem sub_whole (m n : Int) : (whole m).sub (whole n) = .ok (whole (m - n)) := rfl

@[simp] theorem mul_whole (m n : Int) : (whole m).mul (whole n) = .ok (whole (m * n)) := rfl

@[simp] theorem quotient_whole (m : Int) (n : Nat) : (whole m).quotient n = whole (m / n) := rfl

@[simp] theorem remainder_whole (m : Int) (n : Nat) : (whole m).remainder n = whole (m % n) := rfl

end Number

namespace Datum

/-- The number that a datum is in arithmetic, where a truth value stands for one or zero. -/
def toNumber : Datum → Outcome Number
  | whole w => .ok (.whole w.toInt)
  | real x => .ok (.real x)
  | _ => .error .wrongKind

def toWhole : Datum → Outcome Int
  | whole w => .ok w.toInt
  | _ => .error .wrongKind

/-- The plain text of a datum, unless a number in it is too long. -/
def written (d : Datum) : Outcome Text :=
  if d.isWritable then .ok d.plain else .error .tooLong

@[simp] theorem toNumber_whole (w : Whole) : (whole w).toNumber = .ok (.whole w.toInt) := rfl

theorem written_whole (w : Whole) :
    (whole w).written = if w.isWritable then .ok w.plain else .error .tooLong := by
  simp only [written, isWritable_whole, plain, expression]

/-- Whether two data are the same number, text or nothing; no other data are compared. -/
def sameScalar : Datum → Datum → Bool
  | null, null => true
  | text a, text b => a == b
  | a, b =>
    match a.toNumber, b.toNumber with
    | .ok m, .ok n => m.same n
    | _, _ => false

@[simp] theorem sameScalar_ofInt (m n : Int) : (ofInt m).sameScalar (ofInt n) = decide (m = n) :=
  Number.same_whole m n

end Datum

end CalendarText
