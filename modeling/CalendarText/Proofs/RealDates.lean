import CalendarText.Proofs.Causes
import CalendarText.Proofs.Ordinals

/-! The dates that can be made are the days of the calendar from the first year to the last, each part
given as an integer; anything else is refused, as long as the refusal can show it. The one exception
is the day, where truth is taken for the first. -/

namespace CalendarText

namespace Gregorian

/-- The length of a month: thirty days for four of them, thirty-one for seven, and February by the
rule of leap years. -/
def monthLength (year month : Int) : Int :=
  if month = 2 then
    if 4 ∣ year ∧ (¬100 ∣ year ∨ 400 ∣ year) then 29 else 28
  else if month ∈ [4, 6, 9, 11] then 30
  else 31

theorem isLeap_iff_dvd (year : Int) :
    isLeap year = true ↔ 4 ∣ year ∧ (¬100 ∣ year ∨ 400 ∣ year) := by
  simp only [isLeap_iff, Int.dvd_iff_emod_eq_zero, ne_eq]

theorem daysInMonth_eq_monthLength (year : Int) {month : Int} (h : 1 ≤ month ∧ month ≤ 12) :
    daysInMonth year month = monthLength year month := by
  obtain ⟨h1, h12⟩ := h
  simp only [monthLength, ← isLeap_iff_dvd]
  cases hl : isLeap year <;> interval_cases month <;>
    simp [daysInMonth, daysInMonth?, atPosition?, monthLengths, hl]

end Gregorian

section Checks

variable {name : Text} {least most : Int}

/-- A check of bounds gives back the integer that it was given, and takes nothing else. -/
theorem checkBetween_eq_ok_iff {d : Datum} {n : Between least most} :
    checkBetween name least most d = .ok n ↔ d = .ofInt n := by
  constructor
  · intro h
    unfold checkBetween at h
    split at h
    · split at h
      · cases h
        rfl
      · cases h
    · cases h
  · rintro rfl
    exact checkBetween_number n.2

theorem checkBetween_accepts_iff {d : Datum} :
    (∃ n, checkBetween name least most d = .ok n) ↔
      ∃ n : Int, d = .ofInt n ∧ least ≤ n ∧ n ≤ most := by
  simp only [checkBetween_eq_ok_iff, Subtype.exists, exists_prop, and_comm]

variable {year : Datum} {month : Int}

/-- The check of a day takes whole values of either form and keeps the form. -/
theorem checkDay_eq_ok_iff {d : Datum} {w : { w : Whole // 1 ≤ w.toInt ∧ w.toInt ≤ most }} :
    checkDay most year month d = .ok w ↔ d = .whole w := by
  constructor
  · intro h
    unfold checkDay at h
    split at h
    · split at h
      · cases h
        rfl
      · cases h
    · cases h
  · rintro rfl
    exact dif_pos w.2

theorem isShort_of_between (hl : isShort least = true) (hm : isShort most = true) {n : Int}
    (h : least ≤ n ∧ n ≤ most) : isShort n = true := by
  rw [isShort_iff] at *
  omega

/-- An integer with more digits than are written. -/
def Datum.IsTooLong (d : Datum) : Prop :=
  ∃ n : Int, d = .ofInt n ∧ isShort n = false

/-- A refusal for being out of bounds shows the number, and one for the kind of the datum does not. -/
theorem checkBetween_eq_tooLong_iff (hl : isShort least = true) (hm : isShort most = true)
    {d : Datum} : checkBetween name least most d = .error .tooLong ↔ d.IsTooLong := by
  constructor
  · intro h
    unfold checkBetween at h
    split at h
    · rename_i n
      split at h
      · cases h
      · have hr := Failure.raised_refused_eq_tooLong_iff.mp (Except.error.inj h)
        exact ⟨n, rfl, by simpa [Refusal.isWritable, hl, hm] using hr⟩
    · cases h
  · rintro ⟨n, rfl, hn⟩
    have hb : ¬(least ≤ n ∧ n ≤ most) := fun hb => by
      rw [isShort_of_between hl hm hb] at hn
      cases hn
    simp [checkBetween, Datum.ofInt, hb, Refusal.isWritable, hn]

/-- The check of a day shows whatever it refuses. -/
theorem checkDay_eq_tooLong_iff {most year month : Int} (hd : isShort most = true)
    (hy : isShort year = true) (hm : isShort month = true) {day : Datum} :
    checkDay most (.ofInt year) month day = .error .tooLong ↔ day.isWritable = false := by
  have hr : (Refusal.noSuchDay most (.ofInt year) month day).isWritable = day.isWritable := by
    simp [Refusal.isWritable, hd, hy, hm]
  unfold checkDay
  split
  · rename_i w
    split
    · rename_i hb
      have hw : w.isWritable = true :=
        Whole.isWritable_of_isShort (isShort_of_between (isShort_of_lt (by decide)) hd hb)
      simp [hw]
    · simp [hr]
  · simp [hr]

end Checks

namespace Date

/-- The parts of a date are the arguments that it is made of. -/
theorem make_eq_ok_iff {year month day : Datum} {d : Date} :
    make year month day = .ok d ↔
      year = .ofInt d.year ∧ month = .ofInt d.month ∧ day = .whole d.day := by
  simp only [make, bind_eq_ok_iff, pure_eq_ok, Except.ok.injEq]
  constructor
  · rintro ⟨y, hy, m, hm, w, hw, rfl⟩
    exact ⟨checkBetween_eq_ok_iff.mp hy, checkBetween_eq_ok_iff.mp hm, checkDay_eq_ok_iff.mp hw⟩
  · rintro ⟨hy, hm, hd⟩
    exact ⟨⟨d.year, d.year_mem⟩, checkBetween_eq_ok_iff.mpr hy,
      ⟨d.month, d.month_mem⟩, checkBetween_eq_ok_iff.mpr hm,
      ⟨d.day, d.day_mem⟩, checkDay_eq_ok_iff.mpr hd, rfl⟩

/-- Three integers that name a day of the calendar, in a year of at most four digits. -/
structure IsReal (year month day : Int) : Prop where
  year_mem : -9999 ≤ year ∧ year ≤ 9999
  month_mem : 1 ≤ month ∧ month ≤ 12
  day_mem : 1 ≤ day ∧ day ≤ Gregorian.monthLength year month

/-- The dates that there are have real parts, with a day of either form. -/
theorem exists_parts_iff {year month : Int} {day : Whole} :
    (∃ d : Date, d.year = year ∧ d.month = month ∧ d.day = day) ↔
      IsReal year month day.toInt := by
  constructor
  · rintro ⟨d, rfl, rfl, rfl⟩
    have hd := d.day_mem
    rw [Gregorian.daysInMonth_eq_monthLength _ d.month_mem] at hd
    exact ⟨d.year_mem, d.month_mem, hd⟩
  · rintro ⟨hy, hm, hd⟩
    rw [← Gregorian.daysInMonth_eq_monthLength _ hm] at hd
    exact ⟨⟨year, month, day, hy, hm, hd⟩, rfl, rfl, rfl⟩

/-- Arguments for which there should be a date: integers, of which none is a truth value, that name a
day of the calendar. -/
def AreReal (year month day : Datum) : Prop :=
  ∃ y m d : Int, year = .ofInt y ∧ month = .ofInt m ∧ day = .ofInt d ∧ IsReal y m d

theorem make_isOk_iff {year month day : Datum} :
    (∃ d, make year month day = .ok d) ↔
      AreReal year month day ∨ day = .whole (.flag true) ∧ AreReal year month (.ofInt 1) := by
  simp only [make_eq_ok_iff]
  constructor
  · rintro ⟨d, rfl, rfl, rfl⟩
    have hr : IsReal d.year d.month d.day.toInt := exists_parts_iff.mp ⟨d, rfl, rfl, rfl⟩
    cases hd : d.day with
    | number n =>
      rw [hd] at hr
      exact .inl ⟨_, _, n, rfl, rfl, rfl, hr⟩
    | flag b =>
      rw [hd] at hr
      obtain rfl := Whole.eq_true_of_pos hr.day_mem.1
      exact .inr ⟨rfl, _, _, 1, rfl, rfl, rfl, hr⟩
  · rintro (⟨y, m, n, rfl, rfl, rfl, hr⟩ | ⟨rfl, y, m, n, rfl, rfl, hn, hr⟩)
    · have hn : IsReal y m (Whole.number n).toInt := hr
      obtain ⟨d, rfl, rfl, hd⟩ := exists_parts_iff.mpr hn
      exact ⟨d, rfl, rfl, by rw [hd]; rfl⟩
    · obtain rfl : 1 = n := by simpa [Datum.ofInt] using hn
      have ht : IsReal y m (Whole.flag true).toInt := hr
      obtain ⟨d, rfl, rfl, hd⟩ := exists_parts_iff.mpr ht
      exact ⟨d, rfl, rfl, by rw [hd]⟩

/-- What is to be refused first is, or for the day holds, a number that no refusal can show. -/
def DefyRefusal (year month day : Datum) : Prop :=
  year.IsTooLong ∨
    (∃ y : Int, year = .ofInt y ∧ -9999 ≤ y ∧ y ≤ 9999) ∧
      (month.IsTooLong ∨
        (∃ m : Int, month = .ofInt m ∧ 1 ≤ m ∧ m ≤ 12) ∧ day.isWritable = false)

theorem checkYear_eq_tooLong_iff {year : Datum} :
    checkYear year = .error .tooLong ↔ year.IsTooLong :=
  checkBetween_eq_tooLong_iff (isShort_of_lt (by decide)) (isShort_of_lt (by decide))

theorem checkMonth_eq_tooLong_iff {month : Datum} :
    checkMonth month = .error .tooLong ↔ month.IsTooLong :=
  checkBetween_eq_tooLong_iff (isShort_of_lt (by decide)) (isShort_of_lt (by decide))

theorem checkYear_accepts_iff {year : Datum} :
    (∃ y, checkYear year = .ok y) ↔ ∃ y : Int, year = .ofInt y ∧ -9999 ≤ y ∧ y ≤ 9999 :=
  checkBetween_accepts_iff

theorem checkMonth_accepts_iff {month : Datum} :
    (∃ m, checkMonth month = .ok m) ↔ ∃ m : Int, month = .ofInt m ∧ 1 ≤ m ∧ m ≤ 12 :=
  checkBetween_accepts_iff

theorem make_eq_tooLong_iff {year month day : Datum} :
    make year month day = .error .tooLong ↔ DefyRefusal year month day := by
  have hday (y : Between minYear maxYear) (m : Between 1 12) :
      checkDay (Gregorian.daysInMonth y m) (.ofInt y) m day = .error .tooLong ↔
        day.isWritable = false := by
    have hd := Gregorian.daysInMonth_mem y m.2
    have hy := y.2
    have hm := m.2
    simp only [minYear, maxYear] at hy
    exact checkDay_eq_tooLong_iff (isShort_of_lt (by omega)) (isShort_of_lt (by omega))
      (isShort_of_lt (by omega))
  simp only [make, bind_eq_error_iff, checkYear_eq_tooLong_iff, checkMonth_eq_tooLong_iff, hday,
    exists_and_right, checkYear_accepts_iff, checkMonth_accepts_iff, pure_eq_ok, reduceCtorEq,
    and_false, exists_false, or_false, DefyRefusal]

/-- There is a date for arguments of any kind exactly if they are integers that name a day of the
calendar, or else the day is truth and its month has a first. The date has the parts that were
given, everything else is refused, except that the refusal cannot show a number that is too long, and
a datetime whose time and zone are in order is made of the date. -/
theorem make_real (year month day : Datum) :
    ((∃ d, make year month day = .ok d) ↔
      AreReal year month day ∨ day = .whole (.flag true) ∧ AreReal year month (.ofInt 1)) ∧
    (∀ d, make year month day = .ok d →
      year = .ofInt d.year ∧ month = .ofInt d.month ∧ day = .whole d.day) ∧
    (∀ e, make year month day = .error e → (∃ reason, e = .refused reason) ∨ e = .tooLong) ∧
    (make year month day = .error .tooLong ↔ DefyRefusal year month day) ∧
    ∀ hour minute second microsecond precision t zone z,
      TimeOfDay.make hour minute second microsecond precision = .ok t → zone.check = .ok z →
      DateTime.make year month day hour minute second microsecond precision zone = (do
        return ⟨← make year month day, t, z⟩) := by
  refine ⟨make_isOk_iff, fun d => make_eq_ok_iff.mp, make_onlyRefuses year month day,
    make_eq_tooLong_iff, ?_⟩
  intro hour minute second microsecond precision t zone z ht hz
  simp only [DateTime.make, hz, ht, ok_bind]

/-- The leap day of year 0 is the last of its month, also in a datetime with a leap second. -/
theorem make_real_leap_day :
    let t : TimeOfDay := ⟨23, 59, 60, 0, 0, by decide, by decide, by decide, by decide, by decide⟩
    AreReal (.ofInt 0) (.ofInt 2) (.ofInt 29) ∧ ¬AreReal (.ofInt 0) (.ofInt 2) (.ofInt 30) ∧
      ∃ d, make (.ofInt 0) (.ofInt 2) (.ofInt 29) = .ok d ∧
        DateTime.make (.ofInt 0) (.ofInt 2) (.ofInt 29) (.ofInt 23) (.ofInt 59) (.ofInt 60) (.ofInt 0)
          .null (.zone Zone.utc) = .ok ⟨d, t, some Zone.utc⟩ := by
  intro t
  have h29 : AreReal (.ofInt 0) (.ofInt 2) (.ofInt 29) :=
    ⟨0, 2, 29, rfl, rfl, rfl, by decide, by decide, by decide⟩
  obtain ⟨h, -, -, -, hx⟩ := make_real (.ofInt 0) (.ofInt 2) (.ofInt 29)
  obtain ⟨d, hd⟩ := h.mpr (.inl h29)
  refine ⟨h29, fun h30 => ?_, d, hd, ?_⟩
  · obtain ⟨d, hd⟩ := (make_real (.ofInt 0) (.ofInt 2) (.ofInt 30)).1.mpr (.inl h30)
    cases hd
  · rw [hx _ _ _ _ _ t _ (some Zone.utc) rfl rfl, hd, ok_bind, pure_eq_ok]

/-- Truth is taken for the first of the month, although it is no integer proper. -/
theorem make_flag :
    (∃ d, make (.ofInt 2019) (.ofInt 1) (.whole (.flag true)) = .ok d) ∧
      ¬AreReal (.ofInt 2019) (.ofInt 1) (.whole (.flag true)) := by
  refine ⟨⟨⟨2019, 1, .flag true, by decide, by decide, by decide⟩, rfl⟩, ?_⟩
  rintro ⟨y, m, d, -, -, ⟨⟩, -⟩

end Date

end CalendarText
