import CalendarText.Directive
import CalendarText.Value
import CalendarText.Proofs.Names
import CalendarText.Proofs.Ordinals

/-! What the directives require of a value. On the fields of a date, a time or a datetime a directive
fails exactly when a field that it reads is not there, and then it reports the first of these. -/

namespace CalendarText

/-- The fields that a directive reads, in the order in which it asks for them. -/
def Directive.needs : Directive → List Field
  | shortWeekdayName | weekdayName | dayOfYear | weekday => [.year, .month, .day]
  | shortMonthName | monthName | month | quarter => [.month]
  | day => [.day]
  | fraction => [.microsecond]
  | hour | halfDayHour | upperHalf | lowerHalf => [.hour]
  | minute => [.minute]
  | second => [.second]
  | yearOfCentury | year => [.year]
  | percent | preferred _ | offset | zoneName => []

def Field.IsWhole (x : Field) : Prop :=
  x ≠ .microsecond ∧ x ≠ .zoneName

instance (x : Field) : Decidable x.IsWhole :=
  inferInstanceAs (Decidable (x ≠ .microsecond ∧ x ≠ .zoneName))

namespace Fields

/-- The failure that reports the first of some fields that is not there. -/
def missing? (f : Fields) (needed : List Field) (directive : Datum) : Option Failure :=
  (needed.find? fun x => (f.value? x).isNone).map fun x =>
    .missingField (.text x.name) f.kind directive

/-- The data of the fields that are there are such as dates, times and zones publish. Their numbers have
a digit to spare, so that what is added up from them can be written. -/
structure Sound (f : Fields) : Prop where
  whole : ∀ x d, x.IsWhole → f.value? x = some d → ∃ w, d = .whole w ∧ w.IsSmall
  month_mem : ∀ w, f.value? .month = some (.whole w) → 1 ≤ w.toInt ∧ w.toInt ≤ 12
  fraction : ∀ d, f.value? .microsecond = some d →
    ∃ u p : Whole, d = .tuple [.whole u, .whole p] ∧ u.IsSmall
  zoneName : ∀ d, f.value? .zoneName = some d → d.IsText

theorem missing?_cons (f : Fields) (x : Field) (rest : List Field) (tag : Datum) :
    f.missing? (x :: rest) tag = (f.missing? [x] tag).or (f.missing? rest tag) := by
  cases h : f.value? x <;> simp [missing?, h]

theorem require_settles {f : Fields} {x : Field} {good : Datum → Prop}
    (h : ∀ d, f.value? x = some d → good d) (tag : Datum) :
    Settles good (f.require x tag) (f.missing? [x] tag) := by
  cases hx : f.value? x with
  | none => simp [Settles, missing?, require, hx]
  | some d => simpa [Settles, missing?, require, hx] using h d hx

variable {f : Fields}

theorem Sound.require_whole (hf : f.Sound) (x : Field) (hx : x.IsWhole) (tag : Datum) :
    Settles (fun d => ∃ w, d = .whole w ∧ w.IsSmall) (f.require x tag) (f.missing? [x] tag) :=
  require_settles (fun d => hf.whole x d hx) tag

theorem Sound.require_month (hf : f.Sound) (tag : Datum) :
    Settles (fun d => ∃ w : Whole, d = .whole w ∧ 1 ≤ w.toInt ∧ w.toInt ≤ 12)
      (f.require .month tag) (f.missing? [.month] tag) := by
  apply require_settles
  intro d hd
  obtain ⟨w, rfl, -⟩ := hf.whole .month d (by decide) hd
  exact ⟨w, rfl, hf.month_mem w hd⟩

/-- Year, month and day are asked for in this order, and then something is worked out from them. -/
theorem Sound.require_date (hf : f.Sound) {g : Datum → Datum → Datum → Outcome Datum}
    {good : Datum → Prop} (tag : Datum)
    (hg : ∀ y m d : Whole, 1 ≤ m.toInt ∧ m.toInt ≤ 12 → d.IsSmall →
      ∃ r, g (.whole y) (.whole m) (.whole d) = .ok r ∧ good r) :
    Settles good (do
      let year ← f.require .year tag
      let month ← f.require .month tag
      let day ← f.require .day tag
      g year month day) (f.missing? [.year, .month, .day] tag) := by
  rw [missing?_cons, missing?_cons f .month]
  refine (hf.require_whole .year (by decide) tag).bind fun _ ⟨y, hy, _⟩ => ?_
  refine (hf.require_month tag).bind fun _ ⟨m, hm, h12⟩ => ?_
  refine (hf.require_whole .day (by decide) tag).map fun _ ⟨d, hd, hs⟩ => ?_
  rw [hy, hm, hd]
  exact hg y m d h12 hs

theorem Sound.dayOfWeek_settles (hf : f.Sound) (tag : Datum) :
    Settles (fun d => ∃ w : Whole, d = .whole w ∧ 1 ≤ w.toInt ∧ w.toInt ≤ 7)
      (f.dayOfWeek tag) (f.missing? [.year, .month, .day] tag) := by
  apply hf.require_date
  intro y m d hm _
  rw [Gregorian.Unchecked.dayOfWeek_whole, Gregorian.dayOfWeek?, Gregorian.ordinal?,
    Gregorian.daysBeforeMonth?_of_mem _ hm]
  exact ⟨_, rfl, _, rfl, Gregorian.weekdayOfOrdinal_mem _⟩

theorem Sound.dayOfYear_settles (hf : f.Sound) (tag : Datum) :
    Settles Datum.IsShown (f.dayOfYear tag) (f.missing? [.year, .month, .day] tag) := by
  apply hf.require_date
  intro y m d hm hd
  have hb := Gregorian.daysBeforeMonth_mem y.toInt hm
  have hp := le_pow_maxDigits
  unfold Whole.IsSmall at hd
  rw [Gregorian.Unchecked.dayOfYear_whole, Gregorian.dayOfYear?,
    Gregorian.daysBeforeMonth?_of_mem _ hm]
  exact ⟨.ofInt (Gregorian.daysBeforeMonth y.toInt m.toInt + d.toInt), rfl,
    .inl ⟨_, rfl, isShort_of_lt_ten_mul (by omega)⟩⟩

end Fields

namespace Directive

variable {f : Fields} {o : Options}

theorem halfText_settles (hf : f.Sound) (ho : o.HasTexts) (d : Directive) :
    Settles (fun _ => True) (d.halfText f o) (f.missing? [.hour] d.tag) := by
  refine (hf.require_whole .hour (by decide) d.tag).map fun _ ⟨w, hw, _⟩ => ?_
  obtain ⟨t, ht⟩ := ho.halfName (Meridiem.ofHourNumber w.toInt)
  rw [hw, Meridiem.ofHour_whole, ok_bind, ht]
  exact ⟨t, rfl, trivial⟩

/-- Directives whose text is settled by their datum alone. -/
def IsPadded : Directive → Prop
  | preferred _ | fraction | offset | zoneName => False
  | _ => True

theorem name_shown {n : Naming} {size : Int} (hn : n.GivesTexts size) {d : Datum}
    (hd : ∃ w : Whole, d = .whole w ∧ 1 ≤ w.toInt ∧ w.toInt ≤ size) :
    ∃ r, n.name d = .ok r ∧ r.IsShown := by
  obtain ⟨w, rfl, h1, hw⟩ := hd
  obtain ⟨r, hr, ht⟩ := hn w h1 hw
  exact ⟨r, hr, .inr ht⟩

theorem content_settles (hf : f.Sound) (ho : o.HasTexts) {d : Directive} (hd : d.IsPadded) :
    Settles Datum.IsShown (d.content f o) (f.missing? d.needs d.tag) := by
  have whole (x : Field) (hx : x.IsWhole) :
      Settles Datum.IsShown (f.require x d.tag) (f.missing? [x] d.tag) :=
    (hf.require_whole x hx d.tag).imp fun _ ⟨w, hw, hs⟩ => .inl ⟨w, hw, hs.isWritable⟩
  cases d with
  | percent => exact ⟨_, rfl, .inr ⟨_, rfl⟩⟩
  | shortWeekdayName =>
    exact (hf.dayOfWeek_settles _).map fun _ hw => name_shown ho.shortWeekdays_give hw
  | weekdayName => exact (hf.dayOfWeek_settles _).map fun _ hw => name_shown ho.weekdays_give hw
  | shortMonthName => exact (hf.require_month _).map fun _ hm => name_shown ho.shortMonths_give hm
  | monthName => exact (hf.require_month _).map fun _ hm => name_shown ho.months_give hm
  | day => exact whole .day (by decide)
  | hour => exact whole .hour (by decide)
  | month => exact whole .month (by decide)
  | minute => exact whole .minute (by decide)
  | second => exact whole .second (by decide)
  | year => exact whole .year (by decide)
  | halfDayHour =>
    refine (hf.require_whole .hour (by decide) _).map fun _ ⟨w, hw, _⟩ => ?_
    rw [hw]
    exact ⟨_, rfl, .inl ⟨_, rfl, isShort_of_lt (by omega)⟩⟩
  | yearOfCentury =>
    refine (hf.require_whole .year (by decide) _).map fun _ ⟨w, hw, _⟩ => ?_
    rw [hw]
    exact ⟨_, rfl, .inl ⟨_, rfl, isShort_of_lt (by omega)⟩⟩
  | quarter =>
    refine (hf.require_month _).map fun _ ⟨w, hw, hm⟩ => ?_
    rw [hw]
    exact ⟨_, rfl, .inl ⟨_, rfl, isShort_of_lt (by omega)⟩⟩
  | dayOfYear => exact hf.dayOfYear_settles _
  | weekday =>
    exact (hf.dayOfWeek_settles _).imp fun _ ⟨w, hw, hd⟩ =>
      .inl ⟨w, hw, Whole.isWritable_of_isShort (isShort_of_lt (by omega))⟩
  | upperHalf =>
    exact (halfText_settles hf ho _).map fun t _ => ⟨_, rfl, .inr ⟨_, rfl⟩⟩
  | lowerHalf =>
    exact (halfText_settles hf ho _).map fun t _ => ⟨_, rfl, .inr ⟨_, rfl⟩⟩
  | preferred _ | fraction | offset | zoneName => exact absurd hd (by simp [IsPadded])

theorem format_padded {d : Directive} (hd : d.IsPadded) (m : Modifiers) :
    d.format f o m = (do padDatum (← d.content f o) (.ofInt m.width) (.text m.fill)) := by
  cases d with
  | preferred _ | fraction | offset | zoneName => exact absurd hd (by simp [IsPadded])
  | _ => rfl

theorem padDatum_shown {d : Datum} (hd : d.IsShown) (width : Int) (fill : Text) :
    ∃ r, padDatum d (.ofInt width) (.text fill) = .ok r ∧ r.IsText := by
  rcases hd with ⟨w, rfl, hw⟩ | ⟨t, rfl⟩
  · exact ⟨_, padDatum_whole_of_isWritable hw width fill, _, rfl⟩
  · exact ⟨_, padItem_text t width fill, _, rfl⟩

theorem fraction_settles (hf : f.Sound) (m : Modifiers) :
    Settles Datum.IsText (fraction.format f o m) (f.missing? [.microsecond] fraction.tag) := by
  cases hx : f.value? .microsecond with
  | none => simp [Settles, Fields.missing?, hx, format, formatItem, Fields.fraction, Fields.require]
  | some d =>
    obtain ⟨u, p, rfl, hu⟩ := hf.fraction d hx
    have hr : f.fraction fraction.tag = .ok (.tuple [.whole u, .whole p]) := by
      simp [Fields.fraction, Fields.require, hx]
    simp only [Settles, Fields.missing?, hx, List.find?_cons, Option.isNone_some, List.find?_nil,
      Option.map_none, format, formatItem, hr, ok_bind, fractionText, microsecondDigits,
      hu.isWritable, if_true]
    exact ⟨_, rfl, _, rfl⟩

/-- Hours and minutes of an offset as one number, without the sign. -/
def hoursMinutesOf (total : Int) : Nat :=
  total.natAbs / 3600 * 100 + total.natAbs / 60 % 60

theorem offsetItem_whole (total width : Int) (fill : Text) :
    offsetItem (.whole total) (.ofInt width) (.text fill) =
      if isShort (hoursMinutesOf total) then
        .ok (.text ((if 0 ≤ total then '+' else '-') ::
          padLeading (numeral (hoursMinutesOf total)) width fill))
      else .error .tooLong := by
  have hm : (total.natAbs : Int) / (3600 : Nat) * 100 +
      (total.natAbs : Int) / (60 : Nat) % (60 : Nat) = hoursMinutesOf total := by
    unfold hoursMinutesOf
    omega
  simp only [offsetItem, hoursMinutes, Number.abs, Number.quotient_whole, Number.mul_whole,
    Number.remainder_whole, Number.add_whole, ok_bind, Number.written, hm]
  split
  · simp only [ok_bind, signedNumeral_natCast, padItem_text, Datum.afterSign, Number.le_whole,
      decide_eq_true_eq]
  · rfl

theorem isShort_hoursMinutesOf {u s : Whole} (hu : u.IsSmall) (hs : s.IsSmall) :
    isShort (hoursMinutesOf (u.toInt + s.toInt)) = true := by
  unfold Whole.IsSmall at hu hs
  have hp := le_pow_maxDigits
  exact isShort_of_lt_ten_mul (by unfold hoursMinutesOf; omega)

theorem isShort_hoursMinutesOf_of_lt {total : Int} (h : total.natAbs < 10000000) :
    isShort (hoursMinutesOf total) = true :=
  isShort_of_lt (by unfold hoursMinutesOf; omega)

theorem offset_whole {u s : Whole} (hu : f.value? .utcOffset = some (.whole u))
    (hs : f.value? .stdOffset = some (.whole s)) (m : Modifiers) :
    offset.format f o m =
      offsetItem (.whole (u.toInt + s.toInt)) (.ofInt m.width) (.text m.fill) := by
  simp [format, formatItem, Fields.isAware, Fields.require, hu, hs]

theorem offset_settles (hf : f.Sound) (m : Modifiers) :
    ∃ r, offset.format f o m = .ok r ∧ r.IsText := by
  by_cases ha : f.isAware
  · obtain ⟨hu, hs⟩ : (f.value? .utcOffset).isSome ∧ (f.value? .stdOffset).isSome := by
      simpa only [Fields.isAware, Bool.and_eq_true] using ha
    obtain ⟨u, hu⟩ := Option.isSome_iff_exists.mp hu
    obtain ⟨s, hs⟩ := Option.isSome_iff_exists.mp hs
    obtain ⟨u, rfl, hus⟩ := hf.whole _ u (by decide) hu
    obtain ⟨s, rfl, hss⟩ := hf.whole _ s (by decide) hs
    rw [offset_whole hu hs, offsetItem_whole, if_pos (isShort_hoursMinutesOf hus hss)]
    exact ⟨_, rfl, _, rfl⟩
  · exact ⟨.text [], by simp [format, formatItem, ha], _, rfl⟩

theorem zoneName_settles (hf : f.Sound) (m : Modifiers) :
    ∃ r, zoneName.format f o m = .ok r ∧ r.IsText := by
  have hn : ((f.value? .zoneName).getD (.text [])).IsText := by
    cases hx : f.value? .zoneName with
    | none => exact ⟨[], rfl⟩
    | some d => exact hf.zoneName d hx
  obtain ⟨t, ht⟩ := hn
  simp only [format, formatItem, ht]
  split
  · exact ⟨_, padItem_text t m.width m.fill, _, rfl⟩
  · exact ⟨_, rfl, _, rfl⟩

/-- A directive that is no preferred one fails with the first field it misses, and with all its
fields there it has a text. -/
theorem format_settles (hf : f.Sound) (ho : o.HasTexts) {d : Directive}
    (hd : ∀ p, d ≠ .preferred p) (m : Modifiers) :
    Settles Datum.IsText (d.format f o m) (f.missing? d.needs d.tag) := by
  cases d with
  | preferred p => exact absurd rfl (hd p)
  | fraction => exact fraction_settles hf m
  | offset => exact offset_settles hf m
  | zoneName => exact zoneName_settles hf m
  | _ =>
    rw [format_padded (by trivial)]
    exact (content_settles hf ho (by trivial)).map fun _ h => padDatum_shown h _ _

end Directive

def Value.IsCalendar : Value → Prop
  | .date _ | .time _ | .datetime _ => True
  | _ => False

theorem isSmall_ofInt {n : Int} (h : n.natAbs < 10000000) :
    ∃ w, Datum.ofInt n = .whole w ∧ w.IsSmall :=
  ⟨_, rfl, Whole.isSmall_of_lt h⟩

theorem Date.published_sound (d : Date) (kind : Datum) : Fields.Sound ⟨kind, d.published⟩ where
  whole x e hx he := by
    have hy := d.year_mem
    have hm := d.month_mem
    have hd := d.day_mem
    have hl := Gregorian.daysInMonth_mem d.year d.month_mem
    simp only [minYear, maxYear] at hy
    cases x <;> simp only [published, Option.some.injEq, reduceCtorEq] at he <;> subst he
    case day => exact ⟨_, rfl, Whole.isSmall_of_lt (by omega)⟩
    all_goals exact isSmall_ofInt (by omega)
  month_mem w hw := by
    obtain rfl := Datum.whole.inj (Option.some.inj hw)
    exact d.month_mem
  fraction e he := by simp [published] at he
  zoneName e he := by simp [published] at he

theorem TimeOfDay.published_sound (t : TimeOfDay) (kind : Datum) :
    Fields.Sound ⟨kind, t.published⟩ where
  whole x e hx he := by
    have hh := t.hour_mem
    have hm := t.minute_mem
    have hs := t.second_mem
    cases x <;> simp only [published, Option.some.injEq, reduceCtorEq] at he
    case microsecond => exact absurd rfl hx.1
    all_goals
      subst he
      exact isSmall_ofInt (by omega)
  month_mem w hw := by simp [published] at hw
  fraction e he := by
    have hu := t.microsecond_mem
    have hs : (Whole.number t.microsecond).toInt.natAbs < 10000000 := by
      rw [Whole.toInt_number]
      omega
    exact ⟨_, _, (Option.some.inj he).symm, Whole.isSmall_of_lt hs⟩
  zoneName e he := by simp [published] at he

theorem Zone.published_sound (z : Zone) (kind : Datum) : Fields.Sound ⟨kind, z.published⟩ where
  whole x e hx he := by
    have hday : maxOffset = 86400 := rfl
    have hu := z.utcOffset_mem
    have hs := z.stdOffset_mem
    cases x <;> simp only [published, Option.some.injEq, reduceCtorEq] at he
    case zoneName => exact absurd rfl hx.2
    all_goals
      subst he
      exact isSmall_ofInt (by omega)
  month_mem w hw := by simp [published] at hw
  fraction e he := by simp [published] at he
  zoneName e he := ⟨_, (Option.some.inj he).symm⟩

theorem Fields.Sound.or {kind : Datum} {g h : Field → Option Datum} (hg : Sound ⟨kind, g⟩)
    (hh : Sound ⟨kind, h⟩) : Sound ⟨kind, fun x => (g x).or (h x)⟩ where
  whole x d hx hd := by
    rcases Option.or_eq_some_iff.mp hd with hd | ⟨_, hd⟩
    · exact hg.whole x d hx hd
    · exact hh.whole x d hx hd
  month_mem w hw := by
    rcases Option.or_eq_some_iff.mp hw with hw | ⟨_, hw⟩
    · exact hg.month_mem w hw
    · exact hh.month_mem w hw
  fraction d hd := by
    rcases Option.or_eq_some_iff.mp hd with hd | ⟨_, hd⟩
    · exact hg.fraction d hd
    · exact hh.fraction d hd
  zoneName d hd := by
    rcases Option.or_eq_some_iff.mp hd with hd | ⟨_, hd⟩
    · exact hg.zoneName d hd
    · exact hh.zoneName d hd

theorem DateTime.published_sound (x : DateTime) (kind : Datum) :
    Fields.Sound ⟨kind, x.published⟩ := by
  refine (x.date.published_sound kind).or ((x.time.published_sound kind).or ?_)
  cases x.zone with
  | none => exact ⟨by simp, by simp, by simp, by simp⟩
  | some z => exact z.published_sound kind

theorem Fields.ofValue_calendar {v : Value} (hv : v.IsCalendar) :
    ∃ f, ofValue v = .ok f ∧ f.kind = .text v.kind ∧ f.Sound := by
  cases v with
  | date d => exact ⟨_, rfl, rfl, d.published_sound _⟩
  | time t => exact ⟨_, rfl, rfl, t.published_sound _⟩
  | datetime x => exact ⟨_, rfl, rfl, x.published_sound _⟩
  | _ => exact absurd hv (by simp [Value.IsCalendar])

end CalendarText
