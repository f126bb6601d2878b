import CalendarText.Gregorian.Unchecked
import CalendarText.Proofs.Ordinals
import Mathlib.Logic.Function.Iterate

/-! Ordinals count days. The day after a day has the next ordinal, so that going on from a day reaches
every later ordinal, and before every ordinal some year begins. -/

namespace CalendarText.Gregorian

/-- A day of the calendar: a year of any size, one of its months and one of the days of that month. -/
@[ext]
structure Day where
  year : Int
  month : Int
  day : Int
  isDate : IsDate year month day

theorem isDate_first (year : Int) {month : Int} (h : 1 ≤ month ∧ month ≤ 12) :
    IsDate year month 1 := by
  have hd := daysInMonth_mem year h
  exact ⟨h, by omega⟩

namespace Day

def newYear (year : Int) : Day :=
  ⟨year, 1, 1, isDate_first year (by decide)⟩

/-- The day after: the next one of the month, or else the first of the next month, or else the first
of the next year. -/
def next (a : Day) : Day :=
  if hd : a.day < daysInMonth a.year a.month then
    ⟨a.year, a.month, a.day + 1, a.isDate.month_mem, by have := a.isDate.day_mem; omega⟩
  else if hm : a.month < 12 then
    ⟨a.year, a.month + 1, 1, isDate_first a.year (by have := a.isDate.month_mem; omega)⟩
  else newYear (a.year + 1)

def ordinal (a : Day) : Int :=
  Gregorian.ordinal a.year a.month a.day

/-- The order of days by the year, then the month and then the day. -/
def Before (a b : Day) : Prop :=
  a.year < b.year ∨ a.year = b.year ∧ (a.month < b.month ∨ a.month = b.month ∧ a.day < b.day)

theorem ordinal_newYear (year : Int) : (newYear year).ordinal = daysBeforeYear year + 1 := by
  rw [ordinal, newYear, Gregorian.ordinal, daysBeforeMonth_one, Int.add_zero]

theorem ordinal_next (a : Day) : a.next.ordinal = a.ordinal + 1 := by
  have hm := a.isDate.month_mem
  have hd := a.isDate.day_mem
  unfold next
  split
  · simp only [ordinal, Gregorian.ordinal]
    omega
  · rename_i hlast
    split
    · have hs := daysBeforeMonth_succ a.year hm.1 ‹_›
      simp only [ordinal, Gregorian.ordinal]
      omega
    · have hdec : a.month = 12 := by omega
      have he := daysBeforeMonth_december a.year
      rw [hdec] at hlast hd
      rw [ordinal_newYear, daysBeforeYear_succ, ordinal, Gregorian.ordinal, hdec]
      omega

theorem ordinal_iterate_next (a : Day) (k : Nat) : (next^[k] a).ordinal = a.ordinal + k := by
  induction k with
  | zero => simp
  | succ k ih =>
    rw [Function.iterate_succ_apply', ordinal_next, ih]
    omega

/-- Years begin as early as one likes. -/
theorem exists_ordinal_le (n : Int) : ∃ a : Day, a.ordinal ≤ n := by
  refine ⟨newYear (min n 1), ?_⟩
  simp only [ordinal_newYear, daysBeforeYear]
  omega

theorem ordinal_surjective : Function.Surjective ordinal := by
  intro n
  obtain ⟨a, ha⟩ := exists_ordinal_le n
  refine ⟨next^[(n - a.ordinal).toNat] a, ?_⟩
  rw [ordinal_iterate_next]
  omega

theorem ordinal_injective : Function.Injective ordinal := by
  intro a b h
  have hc := compare_ordinal a.isDate b.isDate
  rw [← ordinal, ← ordinal, compare_eq_iff_eq.mpr h, eq_comm, Ordering.then_eq_eq,
    Ordering.then_eq_eq] at hc
  obtain ⟨hy, hm, hd⟩ := hc
  exact Day.ext (compare_eq_iff_eq.mp hy) (compare_eq_iff_eq.mp hm) (compare_eq_iff_eq.mp hd)

theorem ordinal_lt_iff (a b : Day) : a.ordinal < b.ordinal ↔ a.Before b := by
  rw [← compare_lt_iff_lt, ordinal, ordinal, compare_ordinal a.isDate b.isDate]
  simp only [Ordering.then_eq_lt, compare_lt_iff_lt, compare_eq_iff_eq, Before]

theorem unchecked_ordinal (a : Day) :
    Unchecked.ordinal (.ofInt a.year) (.ofInt a.month) (.ofInt a.day) = .ok (.ofInt a.ordinal) := by
  have hd : ordinal? a.year a.month a.day = some a.ordinal := by
    rw [ordinal?, daysBeforeMonth?_of_mem a.year a.isDate.month_mem]
    rfl
  simp only [Datum.ofInt, Unchecked.ordinal_whole, Whole.toInt_number, hd]

theorem unchecked_daysInMonth (a : Day) :
    Unchecked.daysInMonth (.ofInt a.year) (.ofInt a.month) =
      .ok (daysInMonth a.year a.month) := by
  simp only [Datum.ofInt, Unchecked.daysInMonth_whole, Whole.toInt_number,
    daysInMonth?_of_mem a.year a.isDate.month_mem]

/-- The ordinal of a day is always found, and it counts the days: day 1 is the first of January of
year 1, the day after has the next ordinal, ordinals are ordered as the days are, and every integer
is the ordinal of exactly one day. -/
theorem ordinal_counts_days :
    (∀ a : Day,
      Unchecked.daysInMonth (.ofInt a.year) (.ofInt a.month) =
        .ok (daysInMonth a.year a.month) ∧
      Unchecked.ordinal (.ofInt a.year) (.ofInt a.month) (.ofInt a.day) =
        .ok (.ofInt a.ordinal)) ∧
    (newYear 1).ordinal = 1 ∧ (∀ a : Day, a.next.ordinal = a.ordinal + 1) ∧
    (∀ a b : Day, a.ordinal < b.ordinal ↔ a.Before b) ∧
    Function.Bijective ordinal :=
  ⟨fun a => ⟨a.unchecked_daysInMonth, a.unchecked_ordinal⟩, rfl, ordinal_next, ordinal_lt_iff,
    ordinal_injective, ordinal_surjective⟩

/-- Four centuries before the leap year 0 there is a leap day as well, and March follows it. -/
example : (newYear 0).ordinal = -365 ∧
    next ⟨-400, 2, 29, by decide, by decide⟩ = ⟨-400, 3, 1, by decide, by decide⟩ :=
  ⟨rfl, rfl⟩

end Day

end CalendarText.Gregorian
