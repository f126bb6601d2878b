import CalendarText.Text

/-! A whole value is an integer as it was supplied: a number, or a truth value that stands for one
or zero. The two agree in arithmetic and differ in the text they print as. -/

namespace CalendarText

inductive Whole where
  | number (n : Int)
  | flag (b : Bool)
  deriving DecidableEq, Repr

namespace Whole

def toInt : Whole → Int
  | number n => n
  | flag b => if b then 1 else 0

def plain : Whole → Text
  | number n => signedNumeral n
  | flag true => "True".toList
  | flag false => "False".toList

/-- Truth values are written as words, which are never too long. -/
def isWritable : Whole → Bool
  | number n => isShort n
  | flag _ => true

/-- A number with a digit to spare, so that the sum of two of them can still be written. -/
def IsSmall (w : Whole) : Prop :=
  w.toInt.natAbs < Nat.pow 10 (maxDigits - 1)

instance : Coe Int Whole := ⟨number⟩

@[simp] theorem toInt_number (n : Int) : (number n).toInt = n := rfl

@[simp] theorem plain_number (n : Int) : (number n).plain = signedNumeral n := rfl

@[simp] theorem isWritable_number (n : Int) : (number n).isWritable = isShort n := rfl

theorem isWritable_of_isShort {w : Whole} (h : isShort w.toInt = true) : w.isWritable = true := by
  cases w with
  | number n => exact h
  | flag b => rfl

theorem isSmall_of_lt {w : Whole} (h : w.toInt.natAbs < 10000000) : w.IsSmall :=
  Nat.lt_of_lt_of_le h le_pow_maxDigits

theorem IsSmall.isWritable {w : Whole} (h : w.IsSmall) : w.isWritable = true := by
  unfold IsSmall at h
  exact isWritable_of_isShort (isShort_of_lt_ten_mul (by omega))

theorem eq_number_of_neg {w : Whole} (h : w.toInt < 0) : ∃ n, w = number n := by
  cases w with
  | number n => exact ⟨n, rfl⟩
  | flag b => cases b <;> exact absurd h (by decide)

theorem eq_true_of_pos {b : Bool} (h : 1 ≤ (flag b).toInt) : b = true := by
  cases b with
  | true => rfl
  | false => exact absurd h (by decide)

end Whole

end CalendarText
