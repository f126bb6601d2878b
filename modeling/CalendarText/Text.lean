/-! Texts are lists of code points, so lengths, positions and widths all count code points.
Whole numbers are written in decimal without leading zeros, and only so many digits are written. -/

namespace CalendarText

abbrev Text := List Char

/-- The decimal digits of a natural number, most significant first. -/
def numeral (n : Nat) : Text :=
  Nat.toDigits 10 n

/-- The decimal text of an integer, with a minus sign in front of a negative one. -/
def signedNumeral : Int → Text
  | .ofNat n => numeral n
  | .negSucc n => '-' :: numeral (n + 1)

/-- The most decimal digits that a number is read from or written with. -/
def maxDigits : Nat := 4300

/-- Whether an integer has few enough digits to be written; its sign does not count. -/
def isShort (n : Int) : Bool :=
  (numeral n.natAbs).length ≤ maxDigits

def isDecimalDigit (c : Char) : Bool :=
  '0' ≤ c && c ≤ '9'

/-- The value of a run of decimal digits; the empty run counts as zero. -/
def numeralValue (digits : Text) : Nat :=
  digits.foldl (fun n c => 10 * n + (c.toNat - '0'.toNat)) 0

/-- Texts joined with a separator between neighbours. -/
def joinWith (separator : Text) (parts : List Text) : Text :=
  (parts.intersperse separator).flatten

/-- Whether a text holds another one as an unbroken part. -/
def holdsText (part : Text) : Text → Bool
  | [] => part.isEmpty
  | c :: rest => part.isPrefixOf (c :: rest) || holdsText part rest

theorem numeral_eq_if (n : Nat) :
    numeral n = if n < 10 then [n.digitChar] else numeral (n / 10) ++ [(n % 10).digitChar] := by
  unfold numeral
  rw [Nat.toDigits_eq_if (by omega)]

theorem numeral_ne_nil (n : Nat) : numeral n ≠ [] := by
  rw [numeral_eq_if]
  split <;> simp

theorem signedNumeral_natCast (n : Nat) : signedNumeral n = numeral n := rfl

theorem length_numeral_le_iff {n k : Nat} (hk : 0 < k) :
    (numeral n).length ≤ k ↔ n < Nat.pow 10 k :=
  Nat.length_toDigits_le_iff (by decide) hk

theorem isShort_iff {n : Int} : isShort n = true ↔ n.natAbs < Nat.pow 10 maxDigits := by
  rw [isShort, decide_eq_true_eq]
  exact length_numeral_le_iff (by decide)

theorem isShort_eq_false_iff {n : Int} : isShort n = false ↔ Nat.pow 10 maxDigits ≤ n.natAbs := by
  rw [← Bool.not_eq_true, isShort_iff, Nat.not_lt]

theorem isShort_natAbs (n : Int) : isShort n.natAbs = isShort n := by
  rw [isShort, isShort, Int.natAbs_natCast]

theorem pow_eq_ten_mul {k : Nat} (hk : 0 < k) : Nat.pow 10 k = 10 * Nat.pow 10 (k - 1) := by
  cases k with
  | zero => exact absurd hk (by decide)
  | succ k => exact Nat.mul_comm _ _

theorem seven_digits_le {k : Nat} (hk : 7 ≤ k) : 10000000 ≤ Nat.pow 10 k :=
  Nat.pow_le_pow_right (n := 10) (i := 7) (by decide) hk

theorem le_pow_maxDigits : 10000000 ≤ Nat.pow 10 (maxDigits - 1) :=
  seven_digits_le (by decide)

theorem isShort_of_lt_ten_mul {n : Int} (h : n.natAbs < 10 * Nat.pow 10 (maxDigits - 1)) :
    isShort n = true := by
  rwa [isShort_iff, pow_eq_ten_mul (by decide)]

/-- Numbers of up to seven digits are written. -/
theorem isShort_of_lt {n : Int} (h : n.natAbs < 10000000) : isShort n = true :=
  isShort_of_lt_ten_mul (by have := le_pow_maxDigits; omega)

end CalendarText
