import CalendarText.Section
import CalendarText.Padding
import CalendarText.Proofs.Digits

/-! Padded numbers are read back. The fill stands between the sign and the digits. No numeral but that
of zero begins with a zero, so that the fill can be told from the digits even where it is made of
zeros. A number with too many digits has no padded text. -/

namespace CalendarText

/-- The minus sign of a negative number. -/
def minus (v : Int) : Text :=
  if v < 0 then ['-'] else []

theorem padNumber_eq (v width : Int) (fill : Text) :
    padNumber v width fill = minus v ++ padLeading (numeral v.natAbs) width fill := by
  by_cases hv : v < 0
  · rw [padNumber_of_neg hv, minus, if_pos hv, List.singleton_append]
  · rw [padNumber_of_nonneg (by omega), minus, if_neg hv, List.nil_append]

theorem signedNumeral_eq (v : Int) : signedNumeral v = minus v ++ numeral v.natAbs := by
  rw [← padNumber_zero, padNumber_eq, padLeading_of_le zeroFill (Int.natCast_nonneg _)]

theorem signedNumeral_inj {v w : Int} (h : signedNumeral v = signedNumeral w) : v = w := by
  rw [← padNumber_zero, ← padNumber_zero] at h
  exact padNumber_inj h

theorem head?_numeral_div {n : Nat} (h : 10 ≤ n) :
    (numeral n).head? = (numeral (n / 10)).head? := by
  rw [numeral_eq_if n, if_neg (by omega), List.head?_append]
  cases ht : numeral (n / 10) with
  | nil => exact absurd ht (numeral_ne_nil _)
  | cons c t => rfl

theorem head?_numeral_ne_zero {n : Nat} (h : 0 < n) : (numeral n).head? ≠ some '0' := by
  induction n using Nat.strongRecOn with
  | ind n ih =>
    by_cases hn : n < 10
    · have hd : ∀ n < 10, 0 < n → n.digitChar ≠ '0' := by decide
      rw [numeral_eq_if, if_pos hn, List.head?_cons]
      exact fun he => hd n hn h (Option.some.inj he)
    -- The first digit stays the same while digits are taken off at the end.
    · rw [head?_numeral_div (by omega)]
      exact ih (n / 10) (by omega) (by omega)

theorem minus_not_mem_numeral (n : Nat) : '-' ∉ numeral n :=
  fun h => absurd (isDigits_numeral n '-' h) (by decide)

/-- The zeros that a text begins with are deleted as long as something follows them. -/
def withoutZeros : Text → Text
  | '0' :: c :: rest => withoutZeros (c :: rest)
  | t => t

theorem withoutZeros_zero_cons {t : Text} (ht : t ≠ []) :
    withoutZeros ('0' :: t) = withoutZeros t := by
  cases t with
  | nil => exact absurd rfl ht
  | cons c rest => rw [withoutZeros]

theorem withoutZeros_replicate (k : Nat) {t : Text} (ht : t ≠ []) :
    withoutZeros (List.replicate k '0' ++ t) = withoutZeros t := by
  induction k with
  | zero => rfl
  | succ k ih =>
    have hr : List.replicate k '0' ++ t ≠ [] := by simp [ht]
    rw [List.replicate_succ, List.cons_append, withoutZeros_zero_cons hr, ih]

theorem withoutZeros_numeral (n : Nat) : withoutZeros (numeral n) = numeral n := by
  by_cases hn : n = 0
  · subst hn
    rfl
  · have hh := head?_numeral_ne_zero (Nat.pos_of_ne_zero hn)
    cases ht : numeral n with
    | nil => rfl
    | cons c rest =>
      rw [ht, List.head?_cons] at hh
      rw [withoutZeros]
      rintro d r he
      exact absurd (congrArg some (List.cons.inj he).1) hh

theorem padLeading_single_twice (t : Text) (width width' : Int) (c : Char) :
    padLeading (padLeading t width' [c]) width [c] = padLeading t (max width width') [c] := by
  have hl := length_padLeading_single t width' c
  rw [padLeading_single, padLeading_single, padLeading_single, ← List.append_assoc,
    List.replicate_append_replicate]
  rw [padLeading_single] at hl
  congr 2
  omega

namespace Selector

/-- The text without the run of fill that it begins with. Of zeros alone the last one stays. -/
def withoutFill : Selector → Text → Text
  | bare, t => t
  | zeros, t => withoutZeros t
  | spaces, t => t.dropWhile (· == ' ')

/-- The text without the run of fill that follows its sign, if it has one. -/
def unpad (s : Selector) : Text → Text
  | '-' :: t => '-' :: s.withoutFill t
  | t => s.withoutFill t

theorem withoutFill_padded (s : Selector) (n : Nat) (width : Int) :
    s.withoutFill (padLeading (numeral n) width s.fill) = numeral n := by
  cases s with
  | bare => exact padLeading_noFill _ _
  | zeros =>
    rw [fill, padLeading_zeroFill, withoutFill, withoutZeros_replicate _ (numeral_ne_nil n),
      withoutZeros_numeral]
  | spaces =>
    rw [fill, spaceFill, padLeading_single, withoutFill,
      List.dropWhile_append_of_pos (by simp)]
    cases ht : numeral n with
    | nil => exact absurd ht (numeral_ne_nil n)
    | cons c rest =>
      refine List.dropWhile_cons_of_neg fun hc => ?_
      have hd := (isDigits_cons.mp (ht ▸ isDigits_numeral n)).1
      rw [eq_of_beq hc] at hd
      exact absurd hd (by decide)

theorem minus_not_mem_padded (s : Selector) (n : Nat) (width : Int) :
    '-' ∉ padLeading (numeral n) width s.fill := by
  intro h
  rcases List.mem_append.mp h with h | h
  · obtain ⟨fill, hf, hm⟩ := List.mem_flatten.mp h
    rw [List.eq_of_mem_replicate hf] at hm
    cases s <;> exact absurd hm (by decide)
  · exact minus_not_mem_numeral n h

theorem unpad_of_not_mem {s : Selector} {t : Text} (h : '-' ∉ t) : s.unpad t = s.withoutFill t := by
  rw [unpad]
  rintro rest rfl
  exact h List.mem_cons_self

theorem unpad_padNumber (s : Selector) (v width : Int) :
    s.unpad (padNumber v width s.fill) = signedNumeral v := by
  rw [padNumber_eq, signedNumeral_eq, minus]
  split
  · exact congrArg (List.cons '-') (s.withoutFill_padded _ width)
  · exact (unpad_of_not_mem (s.minus_not_mem_padded _ width)).trans (s.withoutFill_padded _ width)

theorem padNumber_fill_inj {s : Selector} {v w width : Int}
    (h : padNumber v width s.fill = padNumber w width s.fill) : v = w := by
  have hu := congrArg s.unpad h
  rw [unpad_padNumber, unpad_padNumber] at hu
  exact signedNumeral_inj hu

theorem padLeading_twice (s : Selector) (t : Text) (width width' : Int) :
    padLeading (padLeading t width' s.fill) width s.fill =
      padLeading t (max width width') s.fill := by
  cases s with
  | bare => simp [fill, noFill]
  | zeros => exact padLeading_single_twice t width width' '0'
  | spaces => exact padLeading_single_twice t width width' ' '

end Selector

section Items

variable {s : Selector} {v w width : Int} {d e : Datum}

/-- Padding gives a text for the integers that can be written. -/
theorem padNumberItem_eq_ok_iff :
    padNumberItem (.ofInt v) (.ofInt width) (.text s.fill) = .ok d ↔
      isShort v = true ∧ d = .text (padNumber v width s.fill) := by
  rw [Datum.ofInt, padNumberItem_whole, Whole.isWritable_number]
  split
  · rename_i hv
    simp only [Except.ok.injEq, hv, true_and]
    exact eq_comm
  · rename_i hv
    simp [hv]

theorem padNumberItem_inj
    (hv : padNumberItem (.ofInt v) (.ofInt width) (.text s.fill) = .ok d)
    (hw : padNumberItem (.ofInt w) (.ofInt width) (.text s.fill) = .ok d) : v = w := by
  obtain ⟨-, rfl⟩ := padNumberItem_eq_ok_iff.mp hv
  obtain ⟨-, h⟩ := padNumberItem_eq_ok_iff.mp hw
  exact Selector.padNumber_fill_inj (Datum.text.inj h)

/-- Padding the text of a number without a sign once more is padding it to the larger width. -/
theorem padItem_padNumberItem {width' : Int} (h0 : 0 ≤ v)
    (hv : padNumberItem (.ofInt v) (.ofInt width') (.text s.fill) = .ok d) :
    padItem d (.ofInt width) (.text s.fill) =
      padNumberItem (.ofInt v) (.ofInt (max width width')) (.text s.fill) := by
  obtain ⟨hs, rfl⟩ := padNumberItem_eq_ok_iff.mp hv
  rw [padItem_text, padNumberItem_eq_ok_iff.mpr ⟨hs, rfl⟩, padNumber_of_nonneg h0,
    padNumber_of_nonneg h0, s.padLeading_twice]

end Items

/-- An integer of any size is padded if it has few enough digits to be written, and otherwise it is too
long. The text is its minus sign, a run of the fill and its digits, and without that run it is the
plain decimal text. So the integer is known from its padded text, and padding the text of one without
a sign once more is padding it to the larger width. -/
theorem padNumber_readsBack (s : Selector) (width : Int) :
    (∀ v : Int,
      padNumberItem (.ofInt v) (.ofInt width) (.text s.fill) =
        (if (numeral v.natAbs).length ≤ maxDigits then .ok (.text (padNumber v width s.fill))
        else .error .tooLong) ∧
      padNumber v width s.fill = minus v ++
        ((List.replicate (width - (numeral v.natAbs).length).toNat s.fill).flatten ++
          numeral v.natAbs) ∧
      s.unpad (padNumber v width s.fill) = signedNumeral v) ∧
    (∀ (v w : Int) (d : Datum),
      padNumberItem (.ofInt v) (.ofInt width) (.text s.fill) = .ok d →
      padNumberItem (.ofInt w) (.ofInt width) (.text s.fill) = .ok d → v = w) ∧
    ∀ (v width' : Int) (d : Datum), 0 ≤ v →
      padNumberItem (.ofInt v) (.ofInt width') (.text s.fill) = .ok d →
      padItem d (.ofInt width) (.text s.fill) =
        padNumberItem (.ofInt v) (.ofInt (max width width')) (.text s.fill) := by
  refine ⟨fun v => ⟨?_, padNumber_eq v width s.fill, s.unpad_padNumber v width⟩,
    fun v w d => padNumberItem_inj, fun v width' d => padItem_padNumberItem⟩
  rw [Datum.ofInt, padNumberItem_whole, Whole.isWritable_number, isShort]
  simp only [decide_eq_true_eq]

/-- Zeros that belong to a number stay when those of the fill are deleted. -/
theorem padNumber_readsBack_zeros :
    let padded (v width : Int) : Outcome Datum :=
      padNumberItem (.ofInt v) (.ofInt width) (.text zeroFill)
    padded (-700) 5 = .ok (.text "-00700".toList) ∧
      Selector.zeros.unpad "-00700".toList = "-700".toList ∧
      padded (7 - 707) 5 = .ok (.text "-00700".toList) ∧ (-700 : Int) = 7 - 707 ∧
      (0 : Int) ≤ 0 ∧ padded 0 3 = .ok (.text "000".toList) ∧
      padItem (.text "000".toList) (.ofInt 5) (.text zeroFill) = padded 0 5 ∧
      Selector.zeros.unpad "00000".toList = "0".toList := by
  intro padded
  obtain ⟨hv, hinj, htwice⟩ := padNumber_readsBack .zeros 5
  obtain ⟨hp, -, hu⟩ := hv (-700)
  have hd : padded (-700) 5 = .ok (.text "-00700".toList) := hp.trans rfl
  have he : padded (7 - 707) 5 = .ok (.text "-00700".toList) := (hv (7 - 707)).1.trans rfl
  have h0 : (0 : Int) ≤ 0 := by decide
  have hz : padded 0 3 = .ok (.text "000".toList) :=
    ((padNumber_readsBack .zeros 3).1 0).1.trans rfl
  exact ⟨hd, hu, he, hinj _ _ _ hd he, h0, hz, htwice 0 3 _ h0 hz, (hv 0).2.2⟩

/-- The day of the year that lies one past the longest numbers cannot be padded. -/
theorem padNumberItem_tooLong :
    padNumberItem (.ofInt (Nat.pow 10 maxDigits + 30 : Nat)) (.ofInt 3) (.text zeroFill) =
      .error .tooLong := by
  have hs : isShort (Nat.pow 10 maxDigits + 30 : Nat) = false :=
    isShort_eq_false_iff.mpr (by omega)
  rw [Datum.ofInt, padNumberItem_whole, Whole.isWritable_number, hs]
  rfl

end CalendarText
