import CalendarText.Proofs.Conversion
import CalendarText.Proofs.OffsetText

/-! The offsets of civil values as text. A civil datetime hands its offset on to the datetime that
it is converted to; a civil time is converted to a time of day, which has none, so that its offset
is lost without a word. -/

namespace CalendarText

/-- The fields have the offset of the zone, if there is one, and else none. -/
def Fields.OfZone (f : Fields) (zone : Option Zone) : Prop :=
  f.value? .utcOffset = zone.bind (·.published .utcOffset) ∧
    f.value? .stdOffset = zone.bind (·.published .stdOffset)

theorem Fields.OfZone.hasOffset {f : Fields} {z : Zone} (h : f.OfZone (some z)) :
    f.HasOffset z.totalOffset :=
  ⟨.number z.utcOffset, .number z.stdOffset, h.1, h.2, rfl⟩

theorem Fields.OfZone.lacksOffset {f : Fields} (h : f.OfZone none) : f.LacksOffset :=
  .inl h.1

theorem length_offsetText {total : Int} (h : total.natAbs < 360000) :
    (offsetText total).length = 5 := by
  have hn : total.natAbs / 3600 * 100 + total.natAbs / 60 % 60 < 10 ^ 4 := by omega
  rw [offsetText, List.length_cons]
  exact congrArg (· + 1) (length_padded_numeral (by decide) hn)

variable {v : Value} {f : Fields} {o : Options} {s : Section}

theorem render_offset_signed (hv : Fields.ofValue v = .ok f) (hs : s.Grammatical)
    (hz : s.directive = some 'z') {total : Int} (h : f.HasOffset total)
    (hl : isShort (Directive.hoursMinutesOf total) = true) :
    ∃ t, render (.text s.text) v o = .ok ((if 0 ≤ total then '+' else '-') :: t) := by
  obtain ⟨u, d, hu, hd, rfl⟩ := h
  rw [render_section (d := .offset) hv hz hs.digits hs.leading]
  simp only [Directive.shown, Directive.offset_whole hu hd, Directive.offsetItem_whole, if_pos hl,
    ok_bind]
  exact ⟨_, congrArg Except.ok (List.append_nil _)⟩

theorem render_offset_lacking (hv : Fields.ofValue v = .ok f) (hs : s.Grammatical)
    (hz : s.directive = some 'z') (h : f.LacksOffset) : render (.text s.text) v o = .ok [] := by
  rw [render_section (d := .offset) hv hz hs.digits hs.leading]
  simp only [Directive.shown, format_lacking h, ok_bind]
  rfl

theorem render_offset_eq_nil_iff (hv : Fields.ofValue v = .ok f) (hs : s.Grammatical)
    (hz : s.directive = some 'z') {zone : Option Zone} (h : f.OfZone zone) :
    render (.text s.text) v o = .ok [] ↔ zone = none := by
  cases zone with
  | none => simp [render_offset_lacking hv hs hz h.lacksOffset]
  | some z =>
    obtain ⟨t, ht⟩ := render_offset_signed (o := o) hv hs hz h.hasOffset z.isShort_hoursMinutes
    simp [ht]

/-- The zone that a civil value is rendered with. Only datetimes hand theirs on. -/
def Civil.zone : Civil → Outcome (Option Zone)
  | datetime x => do (← x.time.zoneChoice).check
  | _ => .ok none

theorem Fields.ofValue_zone (c : Civil) :
    (∀ zone, c.zone = .ok zone → ∃ f, Fields.ofValue (.civil c) = .ok f ∧ f.OfZone zone) ∧
      ∀ e, c.zone = .error e → Fields.ofValue (.civil c) = .error e := by
  cases c with
  | date d =>
    have hd : Date.ofValue (.civil (.date d)) = .ok d.converted := Date.ofValue_civil (.inl rfl)
    rw [Fields.ofValue, hd]
    refine ⟨fun zone hz => ?_, fun e he => absurd he (by simp [Civil.zone])⟩
    obtain rfl := Except.ok.inj hz
    exact ⟨_, rfl, rfl, rfl⟩
  | time t =>
    have ht : TimeOfDay.ofValue (.civil (.time t)) = .ok t.converted :=
      TimeOfDay.ofValue_civil (.inl rfl)
    rw [Fields.ofValue, ht]
    refine ⟨fun zone hz => ?_, fun e he => absurd he (by simp [Civil.zone])⟩
    obtain rfl := Except.ok.inj hz
    exact ⟨_, rfl, rfl, rfl⟩
  | datetime x =>
    have hx : DateTime.ofValue (.civil (.datetime x)) = (do
        return ⟨x.date.converted, x.time.converted, ← Civil.zone (.datetime x)⟩) := by
      rw [DateTime.ofValue_civil, Civil.zone, bind_assoc]
    rw [Fields.ofValue, hx]
    constructor
    · intro zone hz
      rw [hz]
      exact ⟨_, rfl, rfl, rfl⟩
    · intro e he
      rw [he]
      rfl

theorem checkHostOffset_eq_ok {m? n? : Option Int} (h : checkHostOffset m? = .ok n?) : m? = n? := by
  cases m? with
  | none => exact Except.ok.inj h
  | some m =>
    rw [checkHostOffset] at h
    split at h
    · exact Except.ok.inj h
    · exact absurd h (by simp)

theorem CivilTime.zoneChoice_of_utc {t : CivilTime} {utc : Int} (hu : t.utc? = some utc)
    {choice : ZoneChoice} (h : t.zoneChoice = .ok choice) : ∃ z, choice = .zone z := by
  obtain ⟨c, ho, hu⟩ := Option.bind_eq_some_iff.mp hu
  simp only [zoneChoice, ho, hu, bind_eq_ok_iff] at h
  obtain ⟨n?, hn, h⟩ := h
  obtain rfl := checkHostOffset_eq_ok hn
  simp only [bind_eq_ok_iff, pure_eq_ok, Except.ok.injEq] at h
  obtain ⟨_, -, z, -, hc⟩ := h
  exact ⟨z, hc.symm⟩

theorem Civil.zone_eq_ok_none_iff {c : Civil} :
    c.zone = .ok none ↔ ∀ x, c = .datetime x → x.time.utc? = none := by
  constructor
  · rintro h x rfl
    obtain ⟨choice, hc, hz⟩ := bind_eq_ok_iff.mp h
    cases hu : x.time.utc? with
    | none => rfl
    | some utc =>
      obtain ⟨z, rfl⟩ := CivilTime.zoneChoice_of_utc hu hc
      exact absurd hz (by simp [ZoneChoice.check])
  · intro h
    cases c with
    | datetime x =>
      rw [Civil.zone, CivilTime.zoneChoice_naive (h x rfl)]
      rfl
    | _ => rfl

theorem render_civil_eq_nil_iff (c : Civil) (o : Options) (hs : s.Grammatical)
    (hz : s.directive = some 'z') :
    render (.text s.text) (.civil c) o = .ok [] ↔ c.zone = .ok none := by
  obtain ⟨hok, herror⟩ := Fields.ofValue_zone c
  cases hc : c.zone with
  | ok zone =>
    obtain ⟨f, hv, hf⟩ := hok zone hc
    rw [render_offset_eq_nil_iff hv hs hz hf, Except.ok.injEq]
  | error e =>
    have hr : render (.text s.text) (.civil c) o = .error e := by
      rw [render, herror e hc]
      rfl
    rw [hr]
    simp

theorem CivilDateTime.exists_hasOffset (x : CivilDateTime) {c : CivilOffset}
    (hc : x.time.offset = some c) (hw : c.WithinDay) {utc : Int} (hu : c.utc = some utc)
    (h : (wholeSeconds utc - wholeSeconds (c.dst.getD 0)).natAbs ≤ 86400) :
    ∃ f, Fields.ofValue (.civil (.datetime x)) = .ok f ∧ f.HasOffset (wholeSeconds utc) := by
  obtain ⟨-, hnear⟩ := Zone.make_split (wholeSeconds utc) hw.dst_seconds (c.name.getD [])
  obtain ⟨z, hz, -, ht, -⟩ := hnear h
  have hx : Civil.zone (.datetime x) = .ok (some z) := by
    rw [Civil.zone, CivilTime.zoneChoice_aware hc hw hu, hz]
    rfl
  obtain ⟨f, hv, hf⟩ := (Fields.ofValue_zone _).1 _ hx
  exact ⟨f, hv, ht ▸ hf.hasOffset⟩

/-- A civil datetime shows its offset, cut to whole seconds, as hours and minutes after its sign,
and under every modifier it shows at least the sign. Nothing is shown exactly for the civil values
that are no datetimes, with an offset or without, and for the datetimes without an offset. -/
theorem render_civil_offset (o : Options) :
    (∀ x : CivilDateTime, ∀ c ∈ x.time.offset, c.WithinDay → ∀ utc ∈ c.utc,
      (utc.tdiv 1000000 - (c.dst.getD 0).tdiv 1000000).natAbs ≤ 86400 →
      (∃ t hours minutes, render (.text "%z".toList) (.civil (.datetime x)) o = .ok t ∧
        t.length = 5 ∧ ReadsAsOffset t (utc.tdiv 1000000) hours minutes) ∧
      ∀ s : Section, s.Grammatical → s.directive = some 'z' →
        ∃ t, render (.text s.text) (.civil (.datetime x)) o =
          .ok ((if 0 ≤ utc.tdiv 1000000 then '+' else '-') :: t)) ∧
    ∀ (c : Civil) (s : Section), s.Grammatical → s.directive = some 'z' →
      (render (.text s.text) (.civil c) o = .ok [] ↔
        ∀ x, c = .datetime x → x.time.utc? = none) := by
  refine ⟨fun x c hc hw utc hu h => ?_, fun c s hs hz =>
    (render_civil_eq_nil_iff c o hs hz).trans Civil.zone_eq_ok_none_iff⟩
  obtain ⟨f, hf, ht⟩ := x.exists_hasOffset hc hw hu h
  have hlt : (wholeSeconds utc).natAbs < 86400 := natAbs_wholeSeconds_lt (hw.utc utc hu)
  have hl : isShort (Directive.hoursMinutesOf (wholeSeconds utc)) = true :=
    Directive.isShort_hoursMinutesOf_of_lt (by omega)
  refine ⟨?_, fun s hs hz => render_offset_signed hf hs hz ht hl⟩
  obtain ⟨hours, minutes, hr⟩ := exists_readsAsOffset (wholeSeconds utc)
  exact ⟨_, hours, minutes, render_offset_of_short hf ht hl, length_offsetText (by omega), hr⟩

/-- Behind by five hours and a half, with daylight time and parts of a second. -/
theorem render_civil_offset_cut :
    let c : CivilOffset := ⟨some (-19845500000), some 3600000000, none⟩
    let x : CivilDateTime := ⟨⟨2024, 2, 29, by decide, by decide, by decide⟩,
      ⟨12, 30, 0, 0, some c, by decide, by decide, by decide, by decide⟩⟩
    let s : Section := ⟨some .spaces, ['9'], some 'z'⟩
    c.WithinDay ∧ s.Grammatical ∧
      (∃ t hours minutes,
        render (.text "%z".toList) (.civil (.datetime x)) Options.default = .ok t ∧
          t.length = 5 ∧ ReadsAsOffset t (-19845) hours minutes) ∧
      (∃ t, render (.text s.text) (.civil (.datetime x)) Options.default = .ok ('-' :: t)) ∧
      render (.text s.text) (.civil (.date x.date)) Options.default = .ok [] := by
  intro c x s
  have hw : c.WithinDay := ⟨by rintro _ ⟨⟩; decide, by rintro _ ⟨⟩; decide⟩
  have hs : s.Grammatical :=
    Directive.grammatical_of_letter (d := .offset) rfl (isDigits_numeral 9) (by simp [s])
  obtain ⟨hx, hn⟩ := render_civil_offset Options.default
  obtain ⟨ht, hsign⟩ := hx x c rfl hw (-19845500000) rfl (by decide)
  have htotal : (-19845500000 : Int).tdiv 1000000 = -19845 := by decide
  rw [htotal] at ht hsign
  exact ⟨hw, hs, ht, hsign s hs rfl, (hn (.date x.date) s hs rfl).mpr (by simp)⟩

/-- A civil time ahead by five hours and a half shows nothing. -/
theorem render_civil_offset_lost :
    let c : CivilOffset := ⟨some 19800000000, some 0, some "IST".toList⟩
    let t : CivilTime := ⟨12, 30, 0, 0, some c, by decide, by decide, by decide, by decide⟩
    t.utc? = some 19800000000 ∧
      render (.text "%z".toList) (.civil (.time t)) Options.default = .ok [] := by
  intro c t
  exact ⟨rfl, by decide +kernel⟩

end CalendarText
