import CalendarText.Text.Padding
import Mathlib.Data.List.Induction
import Mathlib.Tactic.Ring

/-! Runs of decimal digits. A run is read as a number, which padding with zeros does not change, and
where runs end texts come apart in one way only. -/

namespace CalendarText

def IsDigits (t : Text) : Prop :=
  ∀ c ∈ t, isDecimalDigit c = true

/-- A run of digits in front of the text would end where the text begins. -/
def EndsDigits (t : Text) : Prop :=
  ∀ c ∈ t.head?, isDecimalDigit c = false

theorem isDecimalDigit_iff {c : Char} :
    isDecimalDigit c = true ↔ '0'.toNat ≤ c.toNat ∧ c.toNat ≤ '9'.toNat := by
  simp only [isDecimalDigit, Bool.and_eq_true, decide_eq_true_eq]
  rfl

theorem isDigits_cons {c : Char} {t : Text} :
    IsDigits (c :: t) ↔ isDecimalDigit c = true ∧ IsDigits t :=
  List.forall_mem_cons

theorem isDigits_append {s t : Text} : IsDigits (s ++ t) ↔ IsDigits s ∧ IsDigits t :=
  List.forall_mem_append

theorem digitChar_facts : ∀ n < 10, isDecimalDigit n.digitChar = true ∧
    n.digitChar.toNat - '0'.toNat = n := by
  decide

theorem isDigits_numeral (n : Nat) : IsDigits (numeral n) := by
  induction n using Nat.strongRecOn with
  | ind n ih =>
    rw [numeral_eq_if]
    split
    · exact isDigits_cons.mpr ⟨(digitChar_facts n ‹_›).1, by simp [IsDigits]⟩
    · refine isDigits_append.mpr ⟨ih _ (by omega), isDigits_cons.mpr ⟨?_, by simp [IsDigits]⟩⟩
      exact (digitChar_facts _ (Nat.mod_lt n (by decide))).1

theorem numeralValue_concat (t : Text) (c : Char) :
    numeralValue (t ++ [c]) = 10 * numeralValue t + (c.toNat - '0'.toNat) := by
  simp [numeralValue]

theorem numeralValue_append (s t : Text) :
    numeralValue (s ++ t) = numeralValue s * 10 ^ t.length + numeralValue t := by
  induction t using List.reverseRecOn with
  | nil => simp [numeralValue]
  | append_singleton t c ih =>
    rw [← List.append_assoc, numeralValue_concat, numeralValue_concat, ih, List.length_append,
      List.length_singleton, pow_succ]
    ring

theorem numeralValue_cons (c : Char) (t : Text) :
    numeralValue (c :: t) = (c.toNat - '0'.toNat) * 10 ^ t.length + numeralValue t := by
  simpa [numeralValue] using numeralValue_append [c] t

theorem numeralValue_numeral (n : Nat) : numeralValue (numeral n) = n := by
  induction n using Nat.strongRecOn with
  | ind n ih =>
    rw [numeral_eq_if]
    split
    · simpa [numeralValue] using (digitChar_facts n ‹_›).2
    · rw [numeralValue_concat, ih _ (by omega), (digitChar_facts _ (Nat.mod_lt n (by decide))).2]
      omega

theorem numeralValue_lt {t : Text} (h : IsDigits t) : numeralValue t < 10 ^ t.length := by
  induction t using List.reverseRecOn with
  | nil => simp [numeralValue]
  | append_singleton t c ih =>
    obtain ⟨ht, hc⟩ := isDigits_append.mp h
    have hd := isDecimalDigit_iff.mp (isDigits_cons.mp hc).1
    have hi := ih ht
    have h0 : '0'.toNat = 48 := rfl
    have h9 : '9'.toNat = 57 := rfl
    rw [numeralValue_concat, List.length_append, List.length_singleton, pow_succ]
    omega

/-- The first digits of a run are what is left of its number when the others are cut off. -/
theorem numeralValue_take {t : Text} (h : IsDigits t) (k : Nat) :
    numeralValue (t.take k) = numeralValue t / 10 ^ (t.length - k) := by
  have ht := numeralValue_append (t.take k) (t.drop k)
  rw [← List.take_append_drop k t] at h
  have hd := numeralValue_lt (isDigits_append.mp h).2
  rw [List.take_append_drop, List.length_drop] at ht
  rw [List.length_drop] at hd
  rw [ht, Nat.mul_comm, Nat.mul_add_div (Nat.pow_pos (by decide)), Nat.div_eq_of_lt hd, Nat.add_zero]

theorem padLeading_zeroFill (t : Text) (width : Int) :
    padLeading t width zeroFill = List.replicate (width - t.length).toNat '0' ++ t :=
  padLeading_single t width '0'

theorem isDigits_padLeading {t : Text} (h : IsDigits t) (width : Int) :
    IsDigits (padLeading t width zeroFill) := by
  rw [padLeading_zeroFill, isDigits_append]
  refine ⟨fun c hc => ?_, h⟩
  rw [List.eq_of_mem_replicate hc]
  rfl

theorem numeralValue_padLeading (t : Text) (width : Int) :
    numeralValue (padLeading t width zeroFill) = numeralValue t := by
  have hz (n : Nat) : numeralValue (List.replicate n '0') = 0 := by
    induction n with
    | zero => rfl
    | succ n ih => rw [List.replicate_succ', numeralValue_concat, ih, Nat.sub_self]
  rw [padLeading_zeroFill, numeralValue_append, hz]
  omega

theorem isDigits_padded_numeral (n : Nat) (width : Int) :
    IsDigits (padLeading (numeral n) width zeroFill) :=
  isDigits_padLeading (isDigits_numeral n) width

theorem numeralValue_padded_numeral (n : Nat) (width : Int) :
    numeralValue (padLeading (numeral n) width zeroFill) = n := by
  rw [numeralValue_padLeading, numeralValue_numeral]

theorem padded_numeral_ne_nil (n : Nat) (width : Int) :
    padLeading (numeral n) width zeroFill ≠ [] := by
  simp [padLeading, numeral_ne_nil]

theorem length_padded_digits {b n k : Nat} (hb : 1 < b) (hk : 0 < k) (h : n < b ^ k) :
    (padLeading (Nat.toDigits b n) k zeroFill).length = k := by
  have hl : (Nat.toDigits b n).length ≤ k := (Nat.length_toDigits_le_iff hb hk).mpr h
  have hp := length_padLeading_single (Nat.toDigits b n) k '0'
  rw [zeroFill]
  omega

theorem length_padded_numeral {n k : Nat} (hk : 0 < k) (h : n < 10 ^ k) :
    (padLeading (numeral n) k zeroFill).length = k :=
  length_padded_digits (by decide) hk h

/-- The text is a number in so many decimal digits, with zeros in front of it if it has fewer. -/
structure InDigits (t : Text) (count : Nat) (number : Int) : Prop where
  digits : IsDigits t
  length : t.length = count
  value : (numeralValue t : Int) = number

theorem padNumber_of_nonneg {n : Int} (h : 0 ≤ n) (width : Int) (fill : Text) :
    padNumber n width fill = padLeading (numeral n.natAbs) width fill := by
  have hn : ¬n < 0 := by omega
  obtain ⟨k, rfl⟩ := Int.eq_ofNat_of_zero_le h
  simp only [padNumber, Whole.toInt_number, hn, if_false, Whole.plain_number, signedNumeral_natCast,
    Int.natAbs_natCast]

theorem padNumber_of_neg {n : Int} (h : n < 0) (width : Int) (fill : Text) :
    padNumber n width fill = '-' :: padLeading (numeral n.natAbs) width fill := by
  simp [padNumber, h]

theorem endsDigits_cons {c : Char} {t : Text} :
    EndsDigits (c :: t) ↔ isDecimalDigit c = false := by
  simp [EndsDigits]

theorem digits_append_ne {s t : Text} (hs : IsDigits s) (hn : s ≠ []) (ht : EndsDigits t)
    (s' : Text) : s ++ s' ≠ t := by
  rintro rfl
  cases s with
  | nil => exact hn rfl
  | cons c s => exact absurd (isDigits_cons.mp hs).1 (by simp [endsDigits_cons.mp ht])

/-- Two runs of digits that are continued alike are the same run. -/
theorem digits_append_inj {s s' t t' : Text} (hs : IsDigits s) (hs' : IsDigits s')
    (ht : EndsDigits t) (ht' : EndsDigits t') (h : s ++ t = s' ++ t') : s = s' ∧ t = t' := by
  induction s generalizing s' with
  | nil =>
    cases s' with
    | nil => exact ⟨rfl, h⟩
    | cons c s' =>
      exact absurd h.symm (digits_append_ne hs' (List.cons_ne_nil c s') ht t')
  | cons c s ih =>
    cases s' with
    | nil =>
      exact absurd h (digits_append_ne hs (List.cons_ne_nil c s) ht' t)
    | cons c' s' =>
      rw [List.cons_append, List.cons_append, List.cons.injEq] at h
      obtain ⟨he, hr⟩ := ih (isDigits_cons.mp hs).2 (isDigits_cons.mp hs').2 h.2
      exact ⟨by rw [h.1, he], hr⟩

theorem padded_numeral_append_inj {m n : Nat} {width : Int} {s t : Text} (hs : EndsDigits s)
    (ht : EndsDigits t) (h : padLeading (numeral m) width zeroFill ++ s =
      padLeading (numeral n) width zeroFill ++ t) : m = n ∧ s = t := by
  obtain ⟨hd, hr⟩ := digits_append_inj (isDigits_padded_numeral m width)
    (isDigits_padded_numeral n width) hs ht h
  have hv := congrArg numeralValue hd
  rw [numeralValue_padded_numeral, numeralValue_padded_numeral] at hv
  exact ⟨hv, hr⟩

/-- A number that is filled up with zeros is known from its text, whatever follows that is no
digit. -/
theorem padNumber_append_inj {m n width : Int} {s t : Text} (hs : EndsDigits s)
    (ht : EndsDigits t) (h : padNumber m width zeroFill ++ s = padNumber n width zeroFill ++ t) :
    m = n ∧ s = t := by
  have hne (k : Nat) (u u' : Text) : padLeading (numeral k) width zeroFill ++ u ≠ '-' :: u' :=
    digits_append_ne (isDigits_padded_numeral k width) (padded_numeral_ne_nil k width)
      (endsDigits_cons.mpr rfl) u
  -- A minus sign is no digit, so the two numbers have the same sign.
  by_cases hm : m < 0 <;> by_cases hn : n < 0
  · rw [padNumber_of_neg hm, padNumber_of_neg hn, List.cons_append, List.cons_append,
      List.cons.injEq] at h
    obtain ⟨he, hr⟩ := padded_numeral_append_inj hs ht h.2
    exact ⟨by omega, hr⟩
  · rw [padNumber_of_neg hm, padNumber_of_nonneg (by omega)] at h
    exact absurd h.symm (hne _ t _)
  · rw [padNumber_of_nonneg (by omega), padNumber_of_neg hn] at h
    exact absurd h (hne _ s _)
  · rw [padNumber_of_nonneg (by omega), padNumber_of_nonneg (by omega)] at h
    obtain ⟨he, hr⟩ := padded_numeral_append_inj hs ht h
    exact ⟨by omega, hr⟩

theorem padNumber_inj {m n width : Int}
    (h : padNumber m width zeroFill = padNumber n width zeroFill) : m = n := by
  have hn : EndsDigits [] := by simp [EndsDigits]
  exact (padNumber_append_inj hn hn (congrArg (· ++ []) h)).1

theorem padNumber_zero (n : Int) : padNumber n 0 zeroFill = signedNumeral n := by
  cases n with
  | ofNat n =>
    have hn : 0 ≤ Int.ofNat n := Int.natCast_nonneg n
    rw [padNumber_of_nonneg hn]
    exact padLeading_of_le zeroFill (Int.natCast_nonneg _)
  | negSucc n =>
    rw [padNumber_of_neg (Int.negSucc_lt_zero n)]
    exact congrArg ('-' :: ·) (padLeading_of_le zeroFill (Int.natCast_nonneg _))

theorem signedNumeral_append_inj {m n : Int} {s t : Text} (hs : EndsDigits s) (ht : EndsDigits t)
    (h : signedNumeral m ++ s = signedNumeral n ++ t) : m = n ∧ s = t := by
  rw [← padNumber_zero, ← padNumber_zero] at h
  exact padNumber_append_inj hs ht h

theorem signedNumeral_append_ne {c : Char} (hc : isDecimalDigit c = false) (hm : c ≠ '-') (n : Int)
    (s t : Text) : signedNumeral n ++ s ≠ c :: t := by
  cases n with
  | ofNat n =>
    exact digits_append_ne (isDigits_numeral n) (numeral_ne_nil n) (endsDigits_cons.mpr hc) s
  | negSucc n => exact fun h => hm (List.cons.inj h).1.symm

end CalendarText
