import CalendarText.Proofs.Dependence
import CalendarText.Proofs.RealDates

/-! Civil values as values of this library. A conversion keeps the parts and the offset, cut to whole
seconds, and a civil value is rendered as what it is converted to. -/

namespace CalendarText

/-- The parts of a time are the arguments that it is made of. A precision that is not given is full if
there is a fraction. -/
theorem TimeOfDay.make_eq_ok_iff {hour minute second microsecond precision : Datum}
    {t : TimeOfDay} :
    make hour minute second microsecond precision = .ok t ↔
      hour = .ofInt t.hour ∧ minute = .ofInt t.minute ∧ second = .ofInt t.second ∧
        microsecond = .ofInt t.microsecond ∧
        (precision = .ofInt t.precision ∨
          precision = .null ∧ t.precision = defaultPrecision t.microsecond) := by
  simp only [make, bind_eq_ok_iff, pure_eq_ok, Except.ok.injEq, checkPrecision,
    checkBetween_eq_ok_iff]
  constructor
  · rintro ⟨h, hh, m, hm, s, hs, u, hu, p, hp, rfl⟩
    refine ⟨hh, hm, hs, hu, ?_⟩
    split at hp
    · exact .inr ⟨rfl, by simpa [Datum.ofInt] using hp.symm⟩
    · exact .inl hp
  · rintro ⟨hh, hm, hs, hu, hp⟩
    refine ⟨⟨t.hour, t.hour_mem⟩, hh, ⟨t.minute, t.minute_mem⟩, hm, ⟨t.second, t.second_mem⟩, hs,
      ⟨t.microsecond, t.microsecond_mem⟩, hu, ⟨t.precision, t.precision_mem⟩, ?_, rfl⟩
    rcases hp with rfl | ⟨rfl, hp⟩
    · rfl
    · exact congrArg Datum.ofInt hp.symm

theorem Zone.make_eq_ok_iff {utc std name : Datum} {z : Zone} :
    make utc std name = .ok z ↔
      utc = .ofInt z.utcOffset ∧ std = .ofInt z.stdOffset ∧ name = .text z.abbreviation := by
  simp only [make, bind_eq_ok_iff, checkOffset, checkBetween_eq_ok_iff]
  constructor
  · rintro ⟨u, hu, s, hs, h⟩
    cases name with
    | text a =>
      obtain rfl := Except.ok.inj h
      exact ⟨hu, hs, rfl⟩
    | _ => exact absurd h (by simp)
  · rintro ⟨hu, hs, rfl⟩
    exact ⟨⟨_, z.utcOffset_mem⟩, hu, ⟨_, z.stdOffset_mem⟩, hs, rfl⟩

/-- A date and a time of this library are combined as they are. -/
theorem DateTime.combine_parts (d : Date) (t : TimeOfDay) (zone : ZoneChoice) :
    combine (.date d) (.time t) zone = (do return ⟨d, t, ← zone.check⟩) := by
  have hd : Date.make (.ofInt d.year) (.ofInt d.month) d.day = .ok d :=
    Date.make_eq_ok_iff.mpr ⟨rfl, rfl, rfl⟩
  have ht : TimeOfDay.make (.ofInt t.hour) (.ofInt t.minute) (.ofInt t.second)
      (.ofInt t.microsecond) (.ofInt t.precision) = .ok t :=
    TimeOfDay.make_eq_ok_iff.mpr ⟨rfl, rfl, rfl, rfl, .inl rfl⟩
  have hc : combine (.date d) (.time t) zone = make (.ofInt d.year) (.ofInt d.month) d.day
      (.ofInt t.hour) (.ofInt t.minute) (.ofInt t.second) (.ofInt t.microsecond)
      (.ofInt t.precision) zone := rfl
  simp only [hc, make, hd, ht, ok_bind]

/-- The date with the parts of a civil date. -/
def CivilDate.converted (d : CivilDate) : Date where
  year := d.year
  month := d.month
  day := .number d.day
  year_mem := ⟨Int.le_trans (by decide) d.year_mem.1, d.year_mem.2⟩
  month_mem := d.month_mem
  day_mem := d.day_mem

/-- The time with the parts of a civil time, and full precision if it has a fraction. -/
def CivilTime.converted (t : CivilTime) : TimeOfDay where
  hour := t.hour
  minute := t.minute
  second := t.second
  microsecond := t.microsecond
  precision := TimeOfDay.defaultPrecision t.microsecond
  hour_mem := t.hour_mem
  minute_mem := t.minute_mem
  second_mem := by
    have hs := t.second_mem
    omega
  microsecond_mem := t.microsecond_mem
  precision_mem := by
    unfold TimeOfDay.defaultPrecision maxPrecision
    split <;> decide

theorem Date.ofValue_civil {v : Value} {d : CivilDate}
    (hv : v = .civil (.date d) ∨ ∃ t, v = .civil (.datetime ⟨d, t⟩)) :
    Date.ofValue v = .ok d.converted := by
  rcases hv with rfl | ⟨t, rfl⟩ <;> exact Date.make_eq_ok_iff.mpr ⟨rfl, rfl, rfl⟩

theorem TimeOfDay.ofValue_civil {v : Value} {t : CivilTime}
    (hv : v = .civil (.time t) ∨ ∃ d, v = .civil (.datetime ⟨d, t⟩)) :
    TimeOfDay.ofValue v = .ok t.converted := by
  have hp : t.converted.precision = defaultPrecision t.converted.microsecond := rfl
  rcases hv with rfl | ⟨d, rfl⟩ <;>
    exact TimeOfDay.make_eq_ok_iff.mpr ⟨rfl, rfl, rfl, rfl, .inr ⟨rfl, hp⟩⟩

/-- Only the zone decides whether a civil datetime is converted. -/
theorem DateTime.ofValue_civil (x : CivilDateTime) :
    DateTime.ofValue (.civil (.datetime x)) = (do
      return ⟨x.date.converted, x.time.converted, ← (← x.time.zoneChoice).check⟩) := by
  have hd : Date.ofValue (.civil (.datetime x)) = .ok x.date.converted :=
    Date.ofValue_civil (.inr ⟨x.time, rfl⟩)
  have ht : TimeOfDay.ofValue (.civil (.datetime x)) = .ok x.time.converted :=
    TimeOfDay.ofValue_civil (.inr ⟨x.date, rfl⟩)
  simp only [DateTime.ofValue, Civil.time?, hd, ht, ok_bind, combine_parts]

theorem natAbs_wholeSeconds_lt {n : Int} (h : n.natAbs < 24 * 3600 * 1000000) :
    (wholeSeconds n).natAbs < 86400 := by
  have ha : (wholeSeconds n).natAbs = n.natAbs / 1000000 := Int.natAbs_tdiv n 1000000
  omega

namespace CivilOffset

/-- The offset and its daylight part, where there are any, are less than a day, in microseconds. -/
structure WithinDay (c : CivilOffset) : Prop where
  utc : ∀ n ∈ c.utc, n.natAbs < 24 * 3600 * 1000000
  dst : ∀ n ∈ c.dst, n.natAbs < 24 * 3600 * 1000000

theorem WithinDay.dst_seconds {c : CivilOffset} (h : c.WithinDay) :
    (wholeSeconds (c.dst.getD 0)).natAbs < 86400 := by
  apply natAbs_wholeSeconds_lt
  cases hd : c.dst with
  | none => decide
  | some n => exact h.dst n hd

end CivilOffset

theorem checkHostOffset_of_lt {n? : Option Int}
    (h : ∀ n ∈ n?, n.natAbs < 24 * 3600 * 1000000) : checkHostOffset n? = .ok n? := by
  cases n? with
  | none => rfl
  | some n =>
    have hn : (n.natAbs : Int) < secondsPerDay * microsPerSecond := by
      have hd : secondsPerDay * microsPerSecond = (24 * 3600 * 1000000 : Nat) := rfl
      rw [hd]
      exact Int.ofNat_lt.mpr (h n rfl)
    rw [checkHostOffset, if_pos hn]

namespace CivilTime

variable {t : CivilTime}

theorem zoneChoice_naive (h : t.utc? = none) : t.zoneChoice = .ok .absent := by
  rw [zoneChoice]
  cases ho : t.offset with
  | none => rfl
  | some c =>
    have hu : c.utc = none := by simpa [utc?, ho] using h
    simp only [hu, checkHostOffset, ok_bind, pure_eq_ok]

theorem zoneChoice_aware {c : CivilOffset} (hc : t.offset = some c) (hw : c.WithinDay) {utc : Int}
    (hu : c.utc = some utc) :
    t.zoneChoice = (do
      return .zone (← Zone.make (.ofInt (wholeSeconds utc - wholeSeconds (c.dst.getD 0)))
        (.ofInt (wholeSeconds (c.dst.getD 0))) (.text (c.name.getD [])))) := by
  have hcheck : checkHostOffset (some utc) = .ok (some utc) := hu ▸ checkHostOffset_of_lt hw.utc
  simp only [zoneChoice, hc, hu, hcheck, ok_bind, checkHostOffset_of_lt hw.dst]

end CivilTime

/-- The refusal of an offset that is more than a day. -/
def Zone.tooFar (offset : Int) : Failure :=
  .refused (.outOfRange (.text "utc_offset".toList) (.ofInt (-86400)) (.ofInt 86400) (.ofInt offset))

theorem Zone.isWritable_tooFar (offset : Int) : (tooFar offset).isWritable = isShort offset := by
  have hl : isShort (-86400) = true := isShort_of_lt (by decide)
  have hm : isShort 86400 = true := isShort_of_lt (by decide)
  simp [tooFar, Failure.isWritable, Refusal.isWritable, hl, hm]

/-- An offset is split into its daylight part and the rest, which has to be that of a zone. -/
theorem Zone.make_split (total : Int) {std : Int} (hs : std.natAbs < 86400) (name : Text) :
    (86400 < (total - std).natAbs →
      make (.ofInt (total - std)) (.ofInt std) (.text name) = .error (tooFar (total - std)).raised) ∧
    ((total - std).natAbs ≤ 86400 → ∃ z : Zone,
      make (.ofInt (total - std)) (.ofInt std) (.text name) = .ok z ∧
        z.stdOffset = std ∧ z.totalOffset = total ∧ z.abbreviation = name) := by
  have hm : maxOffset = 86400 := rfl
  constructor
  · intro h
    have hu : ¬(-maxOffset ≤ total - std ∧ total - std ≤ maxOffset) := by omega
    simp only [make, checkOffset, checkBetween, Datum.ofInt, dif_neg hu, error_bind]
    rfl
  · intro h
    let z : Zone := ⟨total - std, std, name, by omega, by omega⟩
    have ht : z.totalOffset = total := Int.sub_add_cancel total std
    exact ⟨z, make_eq_ok_iff.mpr ⟨rfl, rfl, rfl⟩, rfl, ht, rfl⟩

/-- The datetime has the parts of the civil one. The precision is full if there is a fraction. -/
structure CivilDateTime.SameParts (x : CivilDateTime) (y : DateTime) : Prop where
  year : y.date.year = x.date.year
  month : y.date.month = x.date.month
  day : y.date.day = .number x.date.day
  hour : y.time.hour = x.time.hour
  minute : y.time.minute = x.time.minute
  second : y.time.second = x.time.second
  microsecond : y.time.microsecond = x.time.microsecond
  precision : y.time.precision = if x.time.microsecond = 0 then 0 else 6

theorem CivilDateTime.sameParts_converted (x : CivilDateTime) (zone : Option Zone) :
    x.SameParts ⟨x.date.converted, x.time.converted, zone⟩ :=
  ⟨rfl, rfl, rfl, rfl, rfl, rfl, rfl, rfl⟩

/-- The two values are rendered to the same text or fail alike, but a missing field is reported for the
kind of each. -/
def Value.RenderedAlike (v w : Value) (t : Text) (o : Options) : Prop :=
  render (.text t) v o = render (.text t) w o ∨
    ∃ field tag, render (.text t) v o = .error (.missingField field (.text v.kind) tag) ∧
      render (.text t) w o = .error (.missingField field (.text w.kind) tag)

/-- Values that publish the same fields are rendered alike. -/
theorem Value.renderedAlike_of_published {v w : Value} {p : Field → Option Datum}
    (hv : Fields.ofValue v = .ok ⟨.text v.kind, p⟩) (hw : Fields.ofValue w = .ok ⟨.text w.kind, p⟩)
    (t : Text) (o : Options) : v.RenderedAlike w t o := by
  let f : Fields := ⟨.text v.kind, p⟩
  let g : Fields := ⟨.text w.kind, p⟩
  have hp (x : Field) (_ : o.Needs t x) : f.value? x = g.value? x := rfl
  have ha := renderWithin_alike hp Preferred.all (t := t) (fun _ hx => hx) fun s _ =>
    s.sameOptions_refl o
  rw [← render_eq_renderWithin (v := v) hv, ← render_eq_renderWithin (v := w) hw] at ha
  rcases ha with h | ⟨field, tag, -, -, -, hx, hy⟩
  · exact .inl h
  · exact .inr ⟨_, tag, hx, hy⟩

/-- A civil datetime is converted to a datetime with its parts, naive without an offset and else with
the offset and its daylight part cut to seconds. It is refused exactly if what remains without the
daylight part is more than a day. A civil value is rendered as what it is converted to, and where the
conversion fails so does the rendering. -/
theorem civil_conversion :
    (∀ x : CivilDateTime, (∀ c ∈ x.time.offset, c.WithinDay) →
      (x.time.utc? = none → ∃ y, DateTime.ofValue (.civil (.datetime x)) = .ok y ∧
        x.SameParts y ∧ y.zone = none) ∧
      ∀ c ∈ x.time.offset, ∀ utc ∈ c.utc,
        let total := utc.tdiv 1000000
        let std := (c.dst.getD 0).tdiv 1000000
        (86400 < (total - std).natAbs →
          DateTime.ofValue (.civil (.datetime x)) = .error (.refused
            (.outOfRange (.text "utc_offset".toList) (.ofInt (-86400)) (.ofInt 86400)
              (.ofInt (total - std))))) ∧
        ((total - std).natAbs ≤ 86400 →
          ∃ y z, DateTime.ofValue (.civil (.datetime x)) = .ok y ∧ x.SameParts y ∧
            y.zone = some z ∧ z.stdOffset = std ∧ z.totalOffset = total ∧
            z.abbreviation = c.name.getD [])) ∧
    ∀ (t : Text) (o : Options),
      (∀ x, ∃ d, Date.ofValue (.civil (.date x)) = .ok d ∧
        (Value.civil (.date x)).RenderedAlike (.date d) t o) ∧
      (∀ x, ∃ y, TimeOfDay.ofValue (.civil (.time x)) = .ok y ∧
        (Value.civil (.time x)).RenderedAlike (.time y) t o) ∧
      ∀ x, (∀ y, DateTime.ofValue (.civil (.datetime x)) = .ok y →
          (Value.civil (.datetime x)).RenderedAlike (.datetime y) t o) ∧
        ∀ e, DateTime.ofValue (.civil (.datetime x)) = .error e →
          render (.text t) (.civil (.datetime x)) o = .error e := by
  refine ⟨fun x hw => ⟨fun hn => ?_, fun c hc utc hu => ?_⟩, fun t o => ⟨fun x => ?_, fun x => ?_,
    fun x => ⟨fun y hy => ?_, fun e he => ?_⟩⟩⟩
  · have hx := DateTime.ofValue_civil x
    rw [CivilTime.zoneChoice_naive hn] at hx
    exact ⟨_, hx, x.sameParts_converted none, rfl⟩
  · intro total std
    have hx := DateTime.ofValue_civil x
    rw [CivilTime.zoneChoice_aware hc (hw c hc) hu] at hx
    -- The date and the time are always taken over, so that only the zone can be refused.
    obtain ⟨hfar, hnear⟩ :=
      Zone.make_split (wholeSeconds utc) (hw c hc).dst_seconds (c.name.getD [])
    refine ⟨fun h => ?_, fun h => ?_⟩
    · have hlt : (wholeSeconds utc).natAbs < 86400 := natAbs_wholeSeconds_lt ((hw c hc).utc utc hu)
      have hd := (hw c hc).dst_seconds
      have hs : isShort (wholeSeconds utc - wholeSeconds (c.dst.getD 0)) = true :=
        isShort_of_lt (by omega)
      have hr := (Zone.isWritable_tooFar _).trans hs
      rw [hfar h, Failure.raised_of_isWritable hr] at hx
      exact hx
    · obtain ⟨z, hz, hs⟩ := hnear h
      rw [hz] at hx
      exact ⟨_, z, hx, x.sameParts_converted _, rfl, hs⟩
  · have hd : Date.ofValue (.civil (.date x)) = .ok x.converted := Date.ofValue_civil (.inl rfl)
    refine ⟨_, hd, Value.renderedAlike_of_published ?_ rfl t o⟩
    rw [Fields.ofValue, hd]
    rfl
  · have ht : TimeOfDay.ofValue (.civil (.time x)) = .ok x.converted :=
      TimeOfDay.ofValue_civil (.inl rfl)
    refine ⟨_, ht, Value.renderedAlike_of_published ?_ rfl t o⟩
    rw [Fields.ofValue, ht]
    rfl
  · refine Value.renderedAlike_of_published ?_ rfl t o
    rw [Fields.ofValue, hy]
    rfl
  · rw [render, Fields.ofValue, he]
    rfl

/-- An hour behind with daylight time and without its parts of a second, offsets that are two days
apart, and a moment with a name only. -/
theorem civil_conversion_cut :
    let day : CivilDate := ⟨2024, 2, 29, by decide, by decide, by decide⟩
    let moment (c : CivilOffset) : CivilDateTime :=
      ⟨day, ⟨23, 59, 59, 1, some c, by decide, by decide, by decide, by decide⟩⟩
    let near := moment ⟨some (-3600500000), some 3600900000, some "X".toList⟩
    let far := moment ⟨some 86399999999, some (-86399999999), none⟩
    let naive := moment ⟨none, some 0, some "X".toList⟩
    let o := Options.default
    let refusal : Failure := .refused (.outOfRange (.text "utc_offset".toList) (.ofInt (-86400))
      (.ofInt 86400) (.ofInt 172798))
    (∃ y z, DateTime.ofValue (.civil (.datetime near)) = .ok y ∧ near.SameParts y ∧
      y.zone = some z ∧ z.stdOffset = 3600 ∧ z.totalOffset = -3600 ∧
      z.abbreviation = "X".toList ∧
      (Value.civil (.datetime near)).RenderedAlike (.datetime y) "%f%z".toList o) ∧
    (DateTime.ofValue (.civil (.datetime far)) = .error refusal ∧
      render (.text "%d".toList) (.civil (.datetime far)) o = .error refusal) ∧
    ∃ y, DateTime.ofValue (.civil (.datetime naive)) = .ok y ∧ naive.SameParts y ∧
      y.zone = none := by
  intro day moment near far naive o refusal
  have hw (c : CivilOffset) (h : c.WithinDay) : ∀ c' ∈ (moment c).time.offset, c'.WithinDay := by
    rintro _ ⟨⟩
    exact h
  have hnear : CivilOffset.WithinDay ⟨some (-3600500000), some 3600900000, some "X".toList⟩ :=
    ⟨by rintro _ ⟨⟩; decide, by rintro _ ⟨⟩; decide⟩
  have hfar : CivilOffset.WithinDay ⟨some 86399999999, some (-86399999999), none⟩ :=
    ⟨by rintro _ ⟨⟩; decide, by rintro _ ⟨⟩; decide⟩
  have hnaive : CivilOffset.WithinDay ⟨none, some 0, some "X".toList⟩ :=
    ⟨by rintro _ ⟨⟩, by rintro _ ⟨⟩; decide⟩
  obtain ⟨y, z, hy, hp, hz⟩ :=
    ((civil_conversion.1 near (hw _ hnear)).2 _ rfl _ rfl).2 (by decide)
  have he := ((civil_conversion.1 far (hw _ hfar)).2 _ rfl _ rfl).1 (by decide)
  exact ⟨⟨y, z, hy, hp, hz.1, hz.2.1, hz.2.2.1, hz.2.2.2,
      ((civil_conversion.2 _ o).2.2 near).1 y hy⟩,
    ⟨he, ((civil_conversion.2 _ o).2.2 far).2 _ he⟩,
    (civil_conversion.1 naive (hw _ hnaive)).1 rfl⟩

end CalendarText
