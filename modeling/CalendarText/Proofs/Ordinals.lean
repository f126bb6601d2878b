import CalendarText.Gregorian
import Mathlib.Algebra.Order.Ring.Int
import Mathlib.Tactic.IntervalCases

/-! The ordinals of dates are ordered as the dates are. The days of a month end where the next month
begins, and those of a year where the next year begins, whatever the year. -/

namespace CalendarText.Gregorian

/-- The month is one of the year, and the day is one of the month. -/
structure IsDate (year month day : Int) : Prop where
  month_mem : 1 ≤ month ∧ month ≤ 12
  day_mem : 1 ≤ day ∧ day ≤ daysInMonth year month

def yearLength (year : Int) : Int :=
  if isLeap year then 366 else 365

theorem yearLength_mem (year : Int) : 365 ≤ yearLength year ∧ yearLength year ≤ 366 := by
  unfold yearLength
  split <;> decide

theorem isLeap_iff (year : Int) :
    isLeap year = true ↔ year % 4 = 0 ∧ (year % 100 ≠ 0 ∨ year % 400 = 0) := by
  simp [isLeap]

theorem daysBeforeYear_succ (year : Int) :
    daysBeforeYear (year + 1) = daysBeforeYear year + yearLength year := by
  simp only [daysBeforeYear, yearLength, isLeap_iff]
  split <;> omega

theorem daysBeforeYear_mono {y z : Int} (h : y ≤ z) : daysBeforeYear y ≤ daysBeforeYear z := by
  induction z, h using Int.leInduction with
  | base => exact le_refl _
  | succ z _ ih =>
    have hl := (yearLength_mem z).1
    rw [daysBeforeYear_succ]
    omega

theorem daysInMonth_mem (year : Int) {m : Int} (h : 1 ≤ m ∧ m ≤ 12) :
    28 ≤ daysInMonth year m ∧ daysInMonth year m ≤ 31 := by
  obtain ⟨h1, h12⟩ := h
  cases hl : isLeap year <;> interval_cases m <;>
    simp [daysInMonth, daysInMonth?, atPosition?, monthLengths, hl]

theorem daysBeforeMonth_succ (year : Int) {m : Int} (h1 : 1 ≤ m) (h12 : m < 12) :
    daysBeforeMonth year (m + 1) = daysBeforeMonth year m + daysInMonth year m := by
  cases hl : isLeap year <;> interval_cases m <;>
    simp [daysBeforeMonth, daysBeforeMonth?, daysBeforeMonths, daysInMonth, daysInMonth?,
      atPosition?, monthLengths, hl]

theorem daysBeforeMonth_mono (year : Int) {m n : Int} (h1 : 1 ≤ m) (h : m ≤ n) (h12 : n ≤ 12) :
    daysBeforeMonth year m ≤ daysBeforeMonth year n := by
  induction n, h using Int.leInduction with
  | base => exact le_refl _
  | succ n hn ih =>
    have hi := ih (by omega)
    have hd := daysInMonth_mem year (m := n) ⟨by omega, by omega⟩
    rw [daysBeforeMonth_succ year (by omega) (by omega)]
    omega

theorem monthEnd_le (year : Int) {m n : Int} (h1 : 1 ≤ m) (h : m < n) (h12 : n ≤ 12) :
    daysBeforeMonth year m + daysInMonth year m ≤ daysBeforeMonth year n := by
  rw [← daysBeforeMonth_succ year h1 (by omega)]
  exact daysBeforeMonth_mono year (by omega) (by omega) h12

theorem daysBeforeMonth_one (year : Int) : daysBeforeMonth year 1 = 0 := rfl

/-- December ends with the year. -/
theorem daysBeforeMonth_december (year : Int) :
    daysBeforeMonth year 12 + daysInMonth year 12 = yearLength year := by
  cases hl : isLeap year <;>
    simp [daysBeforeMonth, daysBeforeMonth?, daysBeforeMonths, daysInMonth, daysInMonth?,
      atPosition?, monthLengths, yearLength, hl]

theorem daysBeforeMonth_mem (year : Int) {m : Int} (h : 1 ≤ m ∧ m ≤ 12) :
    0 ≤ daysBeforeMonth year m ∧ daysBeforeMonth year m ≤ 338 := by
  have hfirst := daysBeforeMonth_mono year (by decide) h.1 h.2
  have hlast := daysBeforeMonth_mono year h.1 h.2 (by decide)
  have hd := daysInMonth_mem year (m := 12) (by decide)
  have hy := yearLength_mem year
  rw [daysBeforeMonth_one] at hfirst
  rw [← daysBeforeMonth_december] at hy
  omega

theorem IsDate.dayOfYear_mem {year month day : Int} (h : IsDate year month day) :
    1 ≤ dayOfYear year month day ∧ dayOfYear year month day ≤ yearLength year := by
  obtain ⟨⟨h1, h12⟩, hd, hd'⟩ := h
  have hfirst := daysBeforeMonth_mono year (le_refl 1) h1 h12
  have hlast : daysBeforeMonth year month + daysInMonth year month ≤ yearLength year := by
    rw [← daysBeforeMonth_december]
    rcases lt_or_eq_of_le h12 with h | rfl
    · have he := monthEnd_le year h1 h (le_refl 12)
      have hd := daysInMonth_mem year (m := 12) (by decide)
      omega
    · exact le_refl _
  rw [daysBeforeMonth_one] at hfirst
  unfold dayOfYear
  omega

theorem ordinal_eq (year month day : Int) :
    ordinal year month day = daysBeforeYear year + dayOfYear year month day := by
  rw [ordinal, dayOfYear, Int.add_assoc]

section Order

variable {y m d y' m' d' : Int} (h : IsDate y m d) (h' : IsDate y' m' d')

include h h'

theorem ordinal_lt_of_year_lt (hy : y < y') : ordinal y m d < ordinal y' m' d' := by
  have hl := h.dayOfYear_mem.2
  have hf := h'.dayOfYear_mem.1
  have hm := daysBeforeYear_mono (show y + 1 ≤ y' from hy)
  rw [daysBeforeYear_succ] at hm
  rw [ordinal_eq, ordinal_eq]
  omega

theorem ordinal_lt_of_month_lt (hy : y = y') (hm : m < m') :
    ordinal y m d < ordinal y' m' d' := by
  subst hy
  have he := monthEnd_le y h.month_mem.1 hm h'.month_mem.2
  have hd := h.day_mem.2
  have hd' := h'.day_mem.1
  unfold ordinal
  omega

/-- Ordinals compare as year, month and day do, the year first. -/
theorem compare_ordinal :
    compare (ordinal y m d) (ordinal y' m' d') =
      (compare y y').then ((compare m m').then (compare d d')) := by
  rcases lt_trichotomy y y' with hy | rfl | hy
  · rw [compare_lt_iff_lt.mpr hy, compare_lt_iff_lt.mpr (ordinal_lt_of_year_lt h h' hy)]
    rfl
  · rw [compare_eq_iff_eq.mpr rfl, Ordering.eq_then]
    rcases lt_trichotomy m m' with hm | rfl | hm
    · rw [compare_lt_iff_lt.mpr hm, compare_lt_iff_lt.mpr (ordinal_lt_of_month_lt h h' rfl hm)]
      rfl
    · rw [compare_eq_iff_eq.mpr rfl, Ordering.eq_then, ordinal, ordinal]
      simp only [compare, compareOfLessAndEq, add_lt_add_iff_left, add_right_inj]
    · rw [compare_gt_iff_gt.mpr hm, compare_gt_iff_gt.mpr (ordinal_lt_of_month_lt h' h rfl hm)]
      rfl
  · rw [compare_gt_iff_gt.mpr hy, compare_gt_iff_gt.mpr (ordinal_lt_of_year_lt h' h hy)]
    rfl

end Order

end CalendarText.Gregorian
