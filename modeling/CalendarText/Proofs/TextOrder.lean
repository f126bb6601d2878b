import CalendarText.Proofs.Components
import CalendarText.Proofs.DateFields

/-! The order of datetimes as texts. From year 0 on every part has its own width and the more
significant parts stand first, so that the texts are ordered by time, for fractions shown with the
same number of digits. -/

namespace CalendarText

/-- The order of texts by code points. -/
def codePointOrder : Text → Text → Ordering :=
  List.compareLex (compareOn Char.toNat)

theorem codePointOrder_cons (c d : Char) (s t : Text) :
    codePointOrder (c :: s) (d :: t) = (compare c.toNat d.toNat).then (codePointOrder s t) :=
  List.compareLex_cons_cons

theorem codePointOrder_append {s s' : Text} (h : s.length = s'.length) (t t' : Text) :
    codePointOrder (s ++ t) (s' ++ t') = (codePointOrder s s').then (codePointOrder t t') := by
  induction s generalizing s' with
  | nil =>
    obtain rfl := List.eq_nil_of_length_eq_zero h.symm
    rfl
  | cons c s ih =>
    cases s' with
    | nil => simp at h
    | cons d s' =>
      rw [List.cons_append, List.cons_append, codePointOrder_cons, codePointOrder_cons,
        ih (by simpa using h), Ordering.then_assoc]

theorem compare_digits {c d : Char} (hc : isDecimalDigit c = true) (hd : isDecimalDigit d = true) :
    compare (c.toNat - '0'.toNat) (d.toNat - '0'.toNat) = compare c.toNat d.toNat := by
  obtain ⟨hc, -⟩ := isDecimalDigit_iff.mp hc
  obtain ⟨hd, -⟩ := isDecimalDigit_iff.mp hd
  have hl : c.toNat - '0'.toNat < d.toNat - '0'.toNat ↔ c.toNat < d.toNat := by omega
  have he : c.toNat - '0'.toNat = d.toNat - '0'.toNat ↔ c.toNat = d.toNat := by omega
  simp only [compare, compareOfLessAndEq, hl, he]

theorem compare_mul_add {p x y : Nat} (hx : x < p) (hy : y < p) (a b : Nat) :
    compare (a * p + x) (b * p + y) = (compare a b).then (compare x y) := by
  rcases Nat.lt_trichotomy a b with h | rfl | h
  · have hl : (a + 1) * p ≤ b * p := Nat.mul_le_mul_right p h
    rw [Nat.compare_eq_lt.mpr h, Nat.compare_eq_lt.mpr (by rw [Nat.succ_mul] at hl; omega)]
    rfl
  · rw [Nat.compare_eq_eq.mpr rfl, Ordering.eq_then]
    simp only [compare, compareOfLessAndEq, Nat.add_lt_add_iff_left, Nat.add_right_inj]
  · have hl : (b + 1) * p ≤ a * p := Nat.mul_le_mul_right p h
    rw [Nat.compare_eq_gt.mpr h, Nat.compare_eq_gt.mpr (by rw [Nat.succ_mul] at hl; omega)]
    rfl

/-- Runs of digits of one length are ordered as the numbers they are read as. -/
theorem codePointOrder_digits {s t : Text} (hs : IsDigits s) (ht : IsDigits t)
    (h : s.length = t.length) :
    codePointOrder s t = compare (numeralValue s) (numeralValue t) := by
  induction s generalizing t with
  | nil =>
    obtain rfl := List.eq_nil_of_length_eq_zero h.symm
    rfl
  | cons c s ih =>
    cases t with
    | nil => simp at h
    | cons d t =>
      obtain ⟨hc, hs⟩ := isDigits_cons.mp hs
      obtain ⟨hd, ht⟩ := isDigits_cons.mp ht
      have hl : s.length = t.length := by simpa using h
      have hx := numeralValue_lt hs
      have hy := numeralValue_lt ht
      rw [← hl] at hy
      rw [codePointOrder_cons, ih hs ht hl, numeralValue_cons, numeralValue_cons, ← hl,
        compare_mul_add hx hy, compare_digits hc hd]

def sortableTemplate : Text := "%Y-%m-%d %H:%M:%S.%f".toList

/-- The day count, the hour, the minute, the second and the fraction in units of the last digit that
is shown. -/
def DateTime.chronology (x : DateTime) : List Int :=
  [x.date.ordinal, x.time.hour, x.time.minute, x.time.second,
    x.time.microsecond / 10 ^ (6 - x.time.fractionDigits)]

theorem render_sortable (x : DateTime) (o : Options) :
    render (.text sortableTemplate) (.datetime x) o = .ok (x.date.text ++ ' ' :: x.time.text) := by
  have hr : Template.read sortableTemplate = datePieces ++ ([.literal ' '] ++ timePieces) := rfl
  rw [render_eq_renderWithin (f := x.fields) rfl, renderWithin_eq, hr]
  refine joined_append_ok.mpr ⟨_, _, x.joined_date o _ 0, ?_, rfl⟩
  exact joined_append_ok.mpr ⟨_, _, rfl, x.joined_time o _ 0, rfl⟩

theorem compare_natCast (m n : Nat) : compare (m : Int) n = compare m n := by
  simp only [compare, compareOfLessAndEq, Int.ofNat_lt, Int.natCast_inj]

theorem codePointOrder_cons_self (c : Char) (s t : Text) :
    codePointOrder (c :: s) (c :: t) = codePointOrder s t := by
  rw [codePointOrder_cons, compare_eq_iff_eq.mpr rfl, Ordering.eq_then]

/-- Numbers of at most so many digits, filled up with zeros, are compared before what follows. -/
theorem codePointOrder_padNumber {m n : Int} {k : Nat} (hk : 0 < k) (hm : 0 ≤ m ∧ m < 10 ^ k)
    (hn : 0 ≤ n ∧ n < 10 ^ k) (s t : Text) :
    codePointOrder (padNumber m k zeroFill ++ s) (padNumber n k zeroFill ++ t) =
      (compare m n).then (codePointOrder s t) := by
  obtain ⟨i, rfl⟩ := Int.eq_ofNat_of_zero_le hm.1
  obtain ⟨j, rfl⟩ := Int.eq_ofNat_of_zero_le hn.1
  have hi := length_padded_numeral hk (n := i) (by exact_mod_cast hm.2)
  have hj := length_padded_numeral hk (n := j) (by exact_mod_cast hn.2)
  rw [padNumber_of_nonneg hm.1, padNumber_of_nonneg hn.1, Int.natAbs_natCast, Int.natAbs_natCast,
    codePointOrder_append (hi.trans hj.symm), codePointOrder_digits (isDigits_padded_numeral i k)
      (isDigits_padded_numeral j k) (hi.trans hj.symm), numeralValue_padded_numeral,
    numeralValue_padded_numeral, compare_natCast]

theorem codePointOrder_two {m n most : Int} (h : most ≤ 99) (hm : 0 ≤ m ∧ m ≤ most)
    (hn : 0 ≤ n ∧ n ≤ most) (s t : Text) :
    codePointOrder (padNumber m 2 zeroFill ++ s) (padNumber n 2 zeroFill ++ t) =
      (compare m n).then (codePointOrder s t) := by
  have hp : (10 : Int) ^ 2 = 100 := by norm_num
  exact codePointOrder_padNumber (k := 2) (by decide) (by omega) (by omega) s t

theorem codePointOrder_four {m n most : Int} (h : most ≤ 9999) (hm : 0 ≤ m ∧ m ≤ most)
    (hn : 0 ≤ n ∧ n ≤ most) (s t : Text) :
    codePointOrder (padNumber m 4 zeroFill ++ s) (padNumber n 4 zeroFill ++ t) =
      (compare m n).then (codePointOrder s t) := by
  have hp : (10 : Int) ^ 4 = 10000 := by norm_num
  exact codePointOrder_padNumber (k := 4) (by decide) (by omega) (by omega) s t

/-- From year 0 on dates are ordered by their texts as by their day counts, before what follows. -/
theorem codePointOrder_date {a b : Date} (ha : 0 ≤ a.year) (hb : 0 ≤ b.year)
    (hd : ∃ n : Int, a.day = n) (hd' : ∃ n : Int, b.day = n) (s t : Text) :
    codePointOrder (a.text ++ s) (b.text ++ t) =
      (compare a.ordinal b.ordinal).then (codePointOrder s t) := by
  obtain ⟨m, hm⟩ := hd
  obtain ⟨n, hn⟩ := hd'
  have hmonth (d : Date) : 0 ≤ d.month ∧ d.month ≤ 12 := by
    have hd := d.month_mem
    omega
  have hday {d : Date} {k : Int} (h : d.day = k) : 0 ≤ k ∧ k ≤ 31 := by
    have hd := d.day_mem
    have hl := Gregorian.daysInMonth_mem d.year d.month_mem
    rw [h, Whole.toInt_number] at hd
    omega
  have ho : compare a.ordinal b.ordinal =
      (compare a.year b.year).then ((compare a.month b.month).then (compare m n)) := by
    rw [Date.ordinal, Date.ordinal, Gregorian.compare_ordinal a.isDate b.isDate, hm, hn,
      Whole.toInt_number, Whole.toInt_number]
  simp only [ho, Ordering.then_assoc, Date.text, List.append_assoc, List.cons_append, hm, hn]
  rw [codePointOrder_four (by decide) ⟨ha, a.year_mem.2⟩ ⟨hb, b.year_mem.2⟩,
    codePointOrder_cons_self, codePointOrder_two (by decide) (hmonth a) (hmonth b),
    codePointOrder_cons_self, codePointOrder_two (by decide) (hday hm) (hday hn)]

theorem TimeOfDay.codePointOrder_fractionText {a b : TimeOfDay} (h : a.precision = b.precision) :
    codePointOrder a.fractionText b.fractionText =
      compare (a.microsecond / 10 ^ (6 - a.fractionDigits))
        (b.microsecond / 10 ^ (6 - b.fractionDigits)) := by
  have hk : a.fractionDigits = b.fractionDigits := by rw [fractionDigits, fractionDigits, h]
  have ha := a.inDigits_fractionText
  have hb := b.inDigits_fractionText
  rw [codePointOrder_digits ha.digits hb.digits (by rw [ha.length, hb.length, hk]), ← ha.value,
    ← hb.value, compare_natCast]

theorem TimeOfDay.codePointOrder_text {a b : TimeOfDay} (h : a.precision = b.precision) :
    codePointOrder a.text b.text =
      (compare a.hour b.hour).then ((compare a.minute b.minute).then
        ((compare a.second b.second).then
          (compare (a.microsecond / 10 ^ (6 - a.fractionDigits))
            (b.microsecond / 10 ^ (6 - b.fractionDigits))))) := by
  rw [TimeOfDay.text, TimeOfDay.text, codePointOrder_two (by decide) a.hour_mem b.hour_mem,
    codePointOrder_cons_self, codePointOrder_two (by decide) a.minute_mem b.minute_mem,
    codePointOrder_cons_self, codePointOrder_two (by decide) a.second_mem b.second_mem,
    codePointOrder_cons_self, codePointOrder_fractionText h]

/-- Sorting texts sorts by time. From year 0 on, two datetimes with fractions of one precision
compare as their texts do: by the day, the hour, the minute, the second and what is shown of the
fraction. -/
theorem codePointOrder_render (o : Options) {a b : DateTime} (ha : 0 ≤ a.date.year)
    (hb : 0 ≤ b.date.year) (hd : ∃ n : Int, a.date.day = n) (hd' : ∃ n : Int, b.date.day = n)
    (hp : a.time.precision = b.time.precision) :
    ∃ s t, render (.text sortableTemplate) (.datetime a) o = .ok s ∧
      render (.text sortableTemplate) (.datetime b) o = .ok t ∧
      codePointOrder s t = List.compareLex compare a.chronology b.chronology := by
  refine ⟨_, _, render_sortable a o, render_sortable b o, ?_⟩
  rw [codePointOrder_date ha hb hd hd', codePointOrder_cons_self, TimeOfDay.codePointOrder_text hp]
  simp only [DateTime.chronology, List.compareLex_cons_cons, List.compareLex_nil_nil,
    Ordering.then_eq]

/-- A leap second at the end of a year stands before the year that follows, which has one more
digit, and fractions too short for their precision are cut off. -/
theorem codePointOrder_render_leap_second :
    let a : DateTime := ⟨⟨999, 12, .number 31, by decide, by decide, by decide⟩,
      ⟨23, 59, 60, 999999, 0, by decide, by decide, by decide, by decide, by decide⟩, none⟩
    let b : DateTime := ⟨⟨1000, 1, .number 1, by decide, by decide, by decide⟩,
      ⟨0, 0, 0, 1, 0, by decide, by decide, by decide, by decide, by decide⟩, none⟩
    0 ≤ a.date.year ∧ 0 ≤ b.date.year ∧ (∃ n : Int, a.date.day = n) ∧ (∃ n : Int, b.date.day = n) ∧
      a.time.precision = b.time.precision ∧
      ∃ s t, render (.text sortableTemplate) (.datetime a) Options.default = .ok s ∧
        render (.text sortableTemplate) (.datetime b) Options.default = .ok t ∧
        codePointOrder s t = .lt := by
  intro a b
  have ha : 0 ≤ a.date.year := by decide
  have hb : 0 ≤ b.date.year := by decide
  have hd : ∃ n : Int, a.date.day = n := ⟨31, rfl⟩
  have hd' : ∃ n : Int, b.date.day = n := ⟨1, rfl⟩
  have hp : a.time.precision = b.time.precision := rfl
  obtain ⟨s, t, hs, ht, ho⟩ := codePointOrder_render Options.default ha hb hd hd' hp
  have hc : List.compareLex compare a.chronology b.chronology = .lt := by decide
  exact ⟨ha, hb, hd, hd', hp, s, t, hs, ht, ho.trans hc⟩

end CalendarText
