import CalendarText.Proofs.Components
import CalendarText.Proofs.DateFields
import CalendarText.Proofs.DayCount
import Mathlib.Data.Set.Function

/-! The days of a year are numbered through. Each month goes on where the one before it ends, the last
number is the length of the year, and a year with the number of a day names the date. -/

namespace CalendarText

namespace Gregorian

variable {year month day month' day' : Int}

/-- The number of a day in its year is what the ordinals have advanced by since the year began. -/
theorem dayOfYear_eq_sub (year month day : Int) :
    dayOfYear year month day = ordinal year month day - ordinal year 1 1 + 1 := by
  have hf : dayOfYear year 1 1 = 1 := rfl
  rw [ordinal_eq, ordinal_eq, hf]
  omega

theorem dayOfYear_lt_iff (h : IsDate year month day) (h' : IsDate year month' day') :
    dayOfYear year month day < dayOfYear year month' day' ↔
      month < month' ∨ month = month' ∧ day < day' := by
  have hb := Day.ordinal_lt_iff ⟨year, month, day, h⟩ ⟨year, month', day', h'⟩
  simp only [Day.ordinal, ordinal_eq, Day.Before, lt_irrefl, true_and, false_or] at hb
  rw [← hb]
  omega

theorem dayOfYear_inj (h : IsDate year month day) (h' : IsDate year month' day')
    (he : dayOfYear year month day = dayOfYear year month' day') :
    month = month' ∧ day = day' := by
  have hl := (dayOfYear_lt_iff h h').not.mp (by omega)
  have hg := (dayOfYear_lt_iff h' h).not.mp (by omega)
  omega

/-- Every number from 1 to the length of the year is that of a day: the day with the ordinal that is as
far behind the year before lies in no other year. -/
theorem exists_dayOfYear_eq {n : Int} (hn : 1 ≤ n ∧ n ≤ yearLength year) :
    ∃ month day, IsDate year month day ∧ dayOfYear year month day = n := by
  obtain ⟨⟨y, m, d, h⟩, ha⟩ := Day.ordinal_surjective (daysBeforeYear year + n)
  have ho : daysBeforeYear y + dayOfYear y m d = daysBeforeYear year + n := by
    rw [← ordinal_eq]
    exact ha
  have hd := h.dayOfYear_mem
  have hy : y = year := by
    rcases lt_trichotomy y year with hlt | heq | hgt
    · have hm := daysBeforeYear_mono (show y + 1 ≤ year from hlt)
      rw [daysBeforeYear_succ] at hm
      omega
    · exact heq
    · have hm := daysBeforeYear_mono (show year + 1 ≤ y from hgt)
      rw [daysBeforeYear_succ] at hm
      omega
  subst hy
  exact ⟨m, d, h, by omega⟩

/-- Months and days of a year, and the numbers of its days. -/
theorem dayOfYear_bijOn (year : Int) :
    Set.BijOn (fun p : Int × Int => dayOfYear year p.1 p.2) {p | IsDate year p.1 p.2}
      {n | 1 ≤ n ∧ n ≤ yearLength year} := by
  refine ⟨fun p hp => hp.dayOfYear_mem, fun p hp q hq he => ?_, fun n hn => ?_⟩
  · obtain ⟨hm, hd⟩ := dayOfYear_inj hp hq he
    exact Prod.ext hm hd
  · obtain ⟨m, d, hd, he⟩ := exists_dayOfYear_eq hn
    exact ⟨(m, d), hd, he⟩

theorem unchecked_daysBeforeMonth (year : Int) (h : 1 ≤ month ∧ month ≤ 12) :
    Unchecked.daysBeforeMonth (.ofInt year) (.ofInt month) = .ok (daysBeforeMonth year month) := by
  simp only [Datum.ofInt, Unchecked.daysBeforeMonth_whole, Whole.toInt_number,
    daysBeforeMonth?_of_mem year h]

theorem unchecked_dayOfYear (year day : Int) (h : 1 ≤ month ∧ month ≤ 12) :
    Unchecked.dayOfYear (.ofInt year) (.ofInt month) (.ofInt day) =
      .ok (.ofInt (dayOfYear year month day)) := by
  have hd : dayOfYear? year month day = some (dayOfYear year month day) := by
    rw [dayOfYear?, daysBeforeMonth?_of_mem year h]
    rfl
  simp only [Datum.ofInt, Unchecked.dayOfYear_whole, Whole.toInt_number, hd]

end Gregorian

namespace Date

/-- The year and the number of the day. -/
def yearDayText (d : Date) : Text :=
  padNumber (.number d.year) 4 zeroFill ++ '-' :: padNumber (.number d.dayOfYear) 3 zeroFill

theorem render_yearDay (d : Date) (o : Options) :
    render (.text "%Y-%j".toList) (.date d) o = .ok d.yearDayText := by
  have hr : Template.read "%Y-%j".toList = [.directive Directive.year.bare, .literal '-',
      .directive Directive.dayOfYear.bare] := rfl
  have hf := d.fields_hasDate
  let expand := expansion d.fields o Preferred.all
  have hys : isShort d.year = true := by
    have hleast : minYear = -9999 := rfl
    have hmost : maxYear = 9999 := rfl
    have hm := d.year_mem
    exact isShort_of_lt (by omega)
  have hjs : isShort d.dayOfYear = true := by
    have hl := (Gregorian.yearLength_mem d.year).2
    have hm : 1 ≤ d.dayOfYear ∧ d.dayOfYear ≤ _ := d.isDate.dayOfYear_mem
    exact isShort_of_lt (by omega)
  have hy : renderSection d.fields o expand 0 Directive.year.bare =
      .ok (.text (padNumber (.number d.year) 4 zeroFill)) :=
    Directive.renderSection_shown (d := .year) rfl hf.year hys 0
  have hj (k : Nat) : renderSection d.fields o expand k Directive.dayOfYear.bare =
      .ok (.text (padNumber (.number d.dayOfYear) 3 zeroFill)) :=
    Directive.renderSection_whole (d := .dayOfYear) trivial (hf.dayOfYear _) hjs k
  rw [render_eq_renderWithin (f := d.fields) rfl, renderWithin_eq, hr, joined_text hy,
    joined_literal, joined_single (hj _)]
  rfl

/-- Neither number can go on with the other, so the text names the year and the day. -/
theorem yearDayText_inj {a b : Date} (h : a.yearDayText = b.yearDayText) : a.same b = true := by
  have hsep (u : Text) : EndsDigits ('-' :: u) := endsDigits_cons.mpr rfl
  obtain ⟨hy, h⟩ := padNumber_append_inj (hsep _) (hsep _) h
  have hj := padNumber_inj (List.cons.inj h).2
  rw [dayOfYear, dayOfYear, hy] at hj
  have ha := a.isDate
  rw [hy] at ha
  obtain ⟨hm, hd⟩ := Gregorian.dayOfYear_inj ha b.isDate hj
  simp [same, hy, hm, hd]

theorem yearDayText_eq_iff {a b : Date} : a.yearDayText = b.yearDayText ↔ a.same b = true := by
  refine ⟨yearDayText_inj, fun h => ?_⟩
  simp only [same, Bool.and_eq_true, beq_iff_eq] at h
  obtain ⟨⟨hy, hm⟩, hd⟩ := h
  rw [yearDayText, yearDayText, dayOfYear, dayOfYear, hy, hm, hd]

end Date

open Gregorian in
/-- The days of a year are numbered from 1 to 365 or, in a leap year, to 366, each day with a number of
its own and in the order of the days, which is how far the ordinals have advanced since the year
began. A month begins where the one before it ends, and the year with the number of the day is
shown alike only for one date. -/
theorem days_numbered_through :
    (∀ year : Int,
      Set.BijOn (fun p : Int × Int => dayOfYear year p.1 p.2) {p | IsDate year p.1 p.2}
        {n | 1 ≤ n ∧ n ≤ if isLeap year then 366 else 365} ∧
      (∀ m d, IsDate year m d →
        Unchecked.dayOfYear (.ofInt year) (.ofInt m) (.ofInt d) =
          .ok (.ofInt (dayOfYear year m d)) ∧
        Unchecked.ordinal (.ofInt year) (.ofInt m) (.ofInt d) = .ok (.ofInt (ordinal year m d)) ∧
        dayOfYear year m d = ordinal year m d - ordinal year 1 1 + 1 ∧
        ∀ m' d', IsDate year m' d' →
          (dayOfYear year m d < dayOfYear year m' d' ↔ m < m' ∨ m = m' ∧ d < d')) ∧
      ∀ m, 1 ≤ m → m ≤ 11 →
        ∃ before length, Unchecked.daysBeforeMonth (.ofInt year) (.ofInt m) = .ok before ∧
          Unchecked.daysInMonth (.ofInt year) (.ofInt m) = .ok length ∧
          Unchecked.daysBeforeMonth (.ofInt year) (.ofInt (m + 1)) = .ok (before + length)) ∧
    ∀ (a b : Date) (o o' : Options),
      ∃ s t, render (.text "%Y-%j".toList) (.date a) o = .ok s ∧
        render (.text "%Y-%j".toList) (.date b) o' = .ok t ∧ (s = t ↔ a.same b = true) := by
  refine ⟨fun year => ⟨dayOfYear_bijOn year, fun m d h => ?_, fun m h1 h11 => ?_⟩,
    fun a b o o' => ?_⟩
  · exact ⟨unchecked_dayOfYear year d h.month_mem, Day.unchecked_ordinal ⟨year, m, d, h⟩,
      dayOfYear_eq_sub year m d, fun m' d' h' => dayOfYear_lt_iff h h'⟩
  · have hm : 1 ≤ m ∧ m ≤ 12 := by omega
    refine ⟨_, _, unchecked_daysBeforeMonth year hm,
      Day.unchecked_daysInMonth ⟨year, m, 1, isDate_first year hm⟩, ?_⟩
    rw [unchecked_daysBeforeMonth year (by omega), daysBeforeMonth_succ year h1 (by omega)]
  · exact ⟨_, _, a.render_yearDay o, b.render_yearDay o', Date.yearDayText_eq_iff⟩

open Gregorian in
/-- The leap day of the century year 2000 is day 60, and March begins behind it. -/
theorem days_numbered_through_leap_day :
    IsDate 2000 2 29 ∧ IsDate 2000 3 1 ∧ dayOfYear 2000 2 29 = 60 ∧
      Unchecked.dayOfYear (.ofInt 2000) (.ofInt 2) (.ofInt 29) = .ok (.ofInt 60) ∧
      dayOfYear 2000 2 29 < dayOfYear 2000 3 1 ∧
      ∃ before length, Unchecked.daysBeforeMonth (.ofInt 2000) (.ofInt 2) = .ok before ∧
        Unchecked.daysInMonth (.ofInt 2000) (.ofInt 2) = .ok length ∧
        Unchecked.daysBeforeMonth (.ofInt 2000) (.ofInt 3) = .ok (before + length) := by
  have hd : IsDate 2000 2 29 := ⟨by decide, by decide⟩
  have hd' : IsDate 2000 3 1 := ⟨by decide, by decide⟩
  obtain ⟨-, hday, hmonth⟩ := days_numbered_through.1 2000
  obtain ⟨hu, -, -, hlt⟩ := hday 2 29 hd
  exact ⟨hd, hd', rfl, hu, (hlt 3 1 hd').mpr (.inl (by decide)), hmonth 2 (by decide) (by decide)⟩

end CalendarText
