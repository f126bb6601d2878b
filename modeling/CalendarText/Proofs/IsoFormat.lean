import CalendarText.Proofs.OffsetText

/-! The format that shows all of a datetime. Its parts have no common width: the year may be long or
negative, the fraction is as long as its precision, and the offset may be missing. Each part is
known from its text all the same, because something follows it that it cannot go on with. -/

namespace CalendarText

def isoTemplate : Text := "%Y-%m-%dT%H:%M:%S.%f%z".toList

/-- The precision is enough for all the digits of the fraction, of which there is at least one. -/
def TimeOfDay.Exact (t : TimeOfDay) : Prop :=
  1 ≤ t.precision ∧ 10 ^ (6 - t.precision).toNat ∣ t.microsecond

instance (t : TimeOfDay) : Decidable t.Exact :=
  inferInstanceAs (Decidable (_ ∧ _))

theorem render_iso (x : DateTime) (o : Options) :
    render (.text isoTemplate) (.datetime x) o =
      .ok (x.date.text ++ 'T' :: (x.time.text ++ x.offsetText)) := by
  have hr : Template.read isoTemplate =
      datePieces ++ ([.literal 'T'] ++ (timePieces ++ [.directive Directive.offset.bare])) := rfl
  rw [render_eq_renderWithin (f := x.fields) rfl, renderWithin_eq, hr]
  refine joined_append_ok.mpr ⟨_, _, x.joined_date o _ 0, ?_, rfl⟩
  refine joined_append_ok.mpr ⟨_, _, rfl, ?_, rfl⟩
  exact joined_append_ok.mpr ⟨_, _, x.joined_time o _ 0, x.joined_offset o _ 0, rfl⟩

/-- A day is shown as a number or, if it is a truth value, as a word that starts with no digit. -/
theorem padNumber_day_append_inj {v w : Whole} (hv : 1 ≤ v.toInt) (hw : 1 ≤ w.toInt) {s t : Text}
    (hs : EndsDigits s) (ht : EndsDigits t)
    (h : padNumber v 2 zeroFill ++ s = padNumber w 2 zeroFill ++ t) :
    v.toInt = w.toInt ∧ s = t := by
  have hword (u : Text) : EndsDigits (padNumber (.flag true) 2 zeroFill ++ u) :=
    endsDigits_cons.mpr rfl
  have hne {n : Int} (hn : 1 ≤ n) (u u' : Text) :
      padNumber n 2 zeroFill ++ u ≠ padNumber (.flag true) 2 zeroFill ++ u' := by
    rw [padNumber_of_nonneg (by omega)]
    exact digits_append_ne (isDigits_padded_numeral _ 2) (padded_numeral_ne_nil _ 2) (hword u') u
  cases v with
  | number m =>
    cases w with
    | number n => exact padNumber_append_inj hs ht h
    | flag b =>
      obtain rfl := Whole.eq_true_of_pos hw
      exact absurd h (hne hv s t)
  | flag b =>
    obtain rfl := Whole.eq_true_of_pos hv
    cases w with
    | number n => exact absurd h.symm (hne hw t s)
    | flag b' =>
      obtain rfl := Whole.eq_true_of_pos hw
      exact ⟨rfl, List.append_cancel_left h⟩

theorem Date.text_append_inj {a b : Date} {s t : Text} (hs : EndsDigits s) (ht : EndsDigits t)
    (h : a.text ++ s = b.text ++ t) : a.same b = true ∧ s = t := by
  have hsep (u : Text) : EndsDigits ('-' :: u) := endsDigits_cons.mpr rfl
  simp only [Date.text, List.append_assoc, List.cons_append] at h
  obtain ⟨hy, h⟩ := padNumber_append_inj (hsep _) (hsep _) h
  obtain ⟨hm, h⟩ := padNumber_append_inj (hsep _) (hsep _) (List.cons.inj h).2
  obtain ⟨hd, h⟩ := padNumber_day_append_inj a.day_mem.1 b.day_mem.1 hs ht (List.cons.inj h).2
  exact ⟨by simp [Date.same, hy, hm, hd], h⟩

namespace TimeOfDay

theorem Exact.fractionDigits {t : TimeOfDay} (h : t.Exact) :
    (t.fractionDigits : Int) = t.precision := by
  have hp := h.1
  unfold TimeOfDay.fractionDigits
  omega

theorem Exact.microsecond {t : TimeOfDay} (h : t.Exact) :
    numeralValue t.fractionText * 10 ^ (6 - t.fractionDigits) = t.microsecond.natAbs := by
  have hk : (6 - t.precision).toNat = 6 - t.fractionDigits := by
    have := h.fractionDigits
    omega
  have hd : 10 ^ (6 - t.fractionDigits) ∣ t.microsecond.natAbs := by
    have hd := Int.natAbs_dvd_natAbs.mpr h.2
    rwa [Int.natAbs_pow, hk] at hd
  rw [numeralValue_fractionText]
  exact Nat.div_mul_cancel hd

theorem text_append_inj {a b : TimeOfDay} (ha : a.Exact) (hb : b.Exact) {s t : Text}
    (hs : EndsDigits s) (ht : EndsDigits t) (h : a.text ++ s = b.text ++ t) : a = b ∧ s = t := by
  have hsep (u : Text) : EndsDigits (':' :: u) := endsDigits_cons.mpr rfl
  have hpoint (u : Text) : EndsDigits ('.' :: u) := endsDigits_cons.mpr rfl
  simp only [TimeOfDay.text, List.append_assoc, List.cons_append] at h
  obtain ⟨hh, h⟩ := padNumber_append_inj (hsep _) (hsep _) h
  obtain ⟨hm, h⟩ := padNumber_append_inj (hsep _) (hsep _) (List.cons.inj h).2
  obtain ⟨hsec, h⟩ := padNumber_append_inj (hpoint _) (hpoint _) (List.cons.inj h).2
  -- The fraction has no width of its own: it ends where its digits do, and so tells its precision.
  obtain ⟨hf, h⟩ := digits_append_inj a.isDigits_fractionText b.isDigits_fractionText hs ht
    (List.cons.inj h).2
  have hk : a.fractionDigits = b.fractionDigits := by
    rw [← length_fractionText, ← length_fractionText, hf]
  have hu : a.microsecond.natAbs = b.microsecond.natAbs := by
    rw [← ha.microsecond, ← hb.microsecond, hf, hk]
  have hau := a.microsecond_mem
  have hbu := b.microsecond_mem
  have hap := ha.fractionDigits
  have hbp := hb.fractionDigits
  exact ⟨TimeOfDay.ext hh hm hsec (by omega) (by omega), h⟩

end TimeOfDay

theorem Zone.offsetText_inj {y z : Zone} (h : y.offsetText = z.offsetText) :
    (y.totalOffset < 0 ↔ z.totalOffset < 0) ∧
      y.totalOffset.natAbs / 60 = z.totalOffset.natAbs / 60 :=
  offsetText_eq_iff.mp h

theorem DateTime.endsDigits_offsetText (x : DateTime) : EndsDigits x.offsetText := by
  obtain ⟨date, time, zone⟩ := x
  cases zone with
  | none => simp [offsetText, EndsDigits]
  | some z =>
    refine endsDigits_cons.mpr ?_
    split <;> rfl

/-- The format loses nothing it records. Two datetimes with the same text have the same date and the
same time of day, and both or neither have an offset, known to the minute with its sign. -/
theorem render_iso_inj (o : Options) {a b : DateTime} (ha : a.time.Exact) (hb : b.time.Exact)
    (h : render (.text isoTemplate) (.datetime a) o = render (.text isoTemplate) (.datetime b) o) :
    (∃ t, render (.text isoTemplate) (.datetime a) o = .ok t) ∧
      a.date.same b.date = true ∧ a.time = b.time ∧ a.isAware = b.isAware ∧
      ∀ y ∈ a.zone, ∀ z ∈ b.zone, (y.totalOffset < 0 ↔ z.totalOffset < 0) ∧
        y.totalOffset.natAbs / 60 = z.totalOffset.natAbs / 60 := by
  refine ⟨⟨_, render_iso a o⟩, ?_⟩
  have hsep (u : Text) : EndsDigits ('T' :: u) := endsDigits_cons.mpr rfl
  rw [render_iso, render_iso, Except.ok.injEq] at h
  obtain ⟨hd, h⟩ := Date.text_append_inj (hsep _) (hsep _) h
  obtain ⟨ht, h⟩ := TimeOfDay.text_append_inj ha hb a.endsDigits_offsetText b.endsDigits_offsetText
    (List.cons.inj h).2
  refine ⟨hd, ht, ?_⟩
  obtain ⟨_, _, za⟩ := a
  obtain ⟨_, _, zb⟩ := b
  cases za with
  | none =>
    cases zb with
    | none => simp [DateTime.isAware]
    | some z => exact absurd h (List.cons_ne_nil _ _).symm
  | some y =>
    cases zb with
    | none => exact absurd h (List.cons_ne_nil _ _)
    | some z =>
      refine ⟨rfl, ?_⟩
      rintro _ ⟨⟩ _ ⟨⟩
      exact Zone.offsetText_inj h

/-- The two differ in what their offsets are made of and by seconds, which the format leaves out. -/
theorem render_iso_inj_zoned :
    let date : Date := ⟨-44, 3, .number 15, by decide, by decide, by decide⟩
    let time : TimeOfDay :=
      ⟨7, 5, 9, 120000, 2, by decide, by decide, by decide, by decide, by decide⟩
    let y : Zone := ⟨-7200, 3580, "A".toList, by decide, by decide⟩
    let z : Zone := ⟨-3601, 0, "B".toList, by decide, by decide⟩
    let a : DateTime := ⟨date, time, some y⟩
    let b : DateTime := ⟨date, time, some z⟩
    a.time.Exact ∧ b.time.Exact ∧
      render (.text isoTemplate) (.datetime a) Options.default =
        render (.text isoTemplate) (.datetime b) Options.default ∧
      a.date.same b.date = true ∧ a.time = b.time ∧ a.isAware = b.isAware ∧
      (y.totalOffset < 0 ↔ z.totalOffset < 0) ∧
      y.totalOffset.natAbs / 60 = z.totalOffset.natAbs / 60 := by
  intro date time y z a b
  have ha : a.time.Exact := by decide
  have hb : b.time.Exact := by decide
  have h : render (.text isoTemplate) (.datetime a) Options.default =
      render (.text isoTemplate) (.datetime b) Options.default := by
    have ho : a.offsetText = b.offsetText := by decide
    rw [render_iso, render_iso, ho]
  obtain ⟨-, hd, ht, hz, ho⟩ := render_iso_inj Options.default ha hb h
  exact ⟨ha, hb, h, hd, ht, hz, ho y rfl z rfl⟩

end CalendarText
