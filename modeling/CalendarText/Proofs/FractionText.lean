import CalendarText.Proofs.Components
import CalendarText.Proofs.Filling

/-! Fractions of a second as text. A fraction shows the digits that were recorded of it and at least
one, whatever width and fill its section asks for. The digits that are left out are cut off. -/

namespace CalendarText

/-- The first digits of a number of microseconds: as many as the precision says, but at least one. -/
def cutFraction (microsecond precision : Int) : Text :=
  (padLeading (numeral microsecond.natAbs) 6 zeroFill).take (max precision 1).toNat

/-- The microseconds make less than a second, and the precision is one that can be recorded. -/
structure IsFraction (microsecond precision : Int) : Prop where
  microsecond_mem : 0 ≤ microsecond ∧ microsecond ≤ 999999
  precision_mem : 0 ≤ precision ∧ precision ≤ 6

theorem IsFraction.inDigits {u p : Int} (h : IsFraction u p) :
    InDigits (cutFraction u p) (max p 1).toNat (u / 10 ^ (6 - (max p 1).toNat)) := by
  let t : TimeOfDay :=
    ⟨0, 0, 0, u, p, by decide, by decide, by decide, h.microsecond_mem, h.precision_mem⟩
  exact t.inDigits_fractionText

/-- With all its digits a fraction is known from its text. -/
theorem IsFraction.cutFraction_inj {u v : Int} (hu : IsFraction u 6) (hv : IsFraction v 6)
    (h : cutFraction u 6 = cutFraction v 6) : u = v := by
  have hn : (max (6 : Int) 1).toNat = 6 := rfl
  have hx := hu.inDigits.value
  have hy := hv.inDigits.value
  rw [hn, Nat.sub_self, pow_zero, Int.ediv_one] at hx hy
  rw [← hx, ← hy, h]

theorem cutFraction_prefix (u : Int) {p q : Int} (h : p ≤ q) : cutFraction u p <+: cutFraction u q :=
  List.take_prefix_take_left (by omega)

/-- The fields hold the microseconds of a fraction, with a precision or as a bare number, which has
full precision. -/
def Fields.HoldsFraction (f : Fields) (microsecond precision : Whole) : Prop :=
  f.value? .microsecond = some (.tuple [.whole microsecond, .whole precision]) ∨
    f.value? .microsecond = some (.whole microsecond) ∧ precision = .number 6

/-- The value has a fraction of so many microseconds at a precision. -/
structure Value.HasFraction (v : Value) (microsecond precision : Int) : Prop where
  held : ∃ f u p, Fields.ofValue v = .ok f ∧ f.HoldsFraction u p ∧ u.toInt = microsecond ∧
    p.toInt = precision
  isFraction : IsFraction microsecond precision

theorem Fields.HoldsFraction.fraction {f : Fields} {u p : Whole} (h : f.HoldsFraction u p)
    (tag : Datum) : f.fraction tag = .ok (.tuple [.whole u, .whole p]) := by
  rcases h with h | ⟨h, rfl⟩ <;> simp only [Fields.fraction, Fields.require, h] <;> rfl

theorem Directive.fractionText_whole {u p : Whole} (h : IsFraction u.toInt p.toInt) :
    fractionText (.tuple [.whole u, .whole p]) = .ok (cutFraction u.toInt p.toInt) := by
  have hm := h.microsecond_mem
  have hs : u.isWritable = true := Whole.isWritable_of_isShort (isShort_of_lt (by omega))
  simp only [fractionText, microsecondDigits, hs, Int.not_lt.mpr hm.1, if_true, if_false,
    shownDigits, Datum.toNumber_whole, ok_bind, pure_eq_ok, cutFraction]

variable {v : Value} {u p : Int}

/-- Width and fill do not matter to a fraction. -/
theorem Value.HasFraction.render (h : v.HasFraction u p) {s : Section} (hs : s.Grammatical)
    (hf : s.directive = some 'f') (o : Options) :
    render (.text s.text) v o = .ok (cutFraction u p) := by
  obtain ⟨f, u, p, hv, hh, rfl, rfl⟩ := h.held
  rw [render_section (d := .fraction) hv hf hs.digits hs.leading]
  simp only [Directive.shown, Directive.format, Directive.formatItem, hh.fraction, ok_bind,
    Directive.fractionText_whole h.isFraction, pure_eq_ok, joinTexts, List.append_nil]

theorem TimeOfDay.hasFraction (t : TimeOfDay) :
    (Value.time t).HasFraction t.microsecond t.precision :=
  ⟨⟨_, .number t.microsecond, .number t.precision, rfl, .inl rfl, rfl, rfl⟩,
    t.microsecond_mem, t.precision_mem⟩

theorem DateTime.hasFraction (x : DateTime) :
    (Value.datetime x).HasFraction x.time.microsecond x.time.precision :=
  ⟨⟨_, .number x.time.microsecond, .number x.time.precision, rfl, .inl rfl, rfl, rfl⟩,
    x.time.microsecond_mem, x.time.precision_mem⟩

/-- A fraction of a second is shown as the digits that were recorded of it, and as one if none were,
under every fill and width. Times and datetimes have the fraction they are made with. With all of
its six digits a fraction is known from its text, and with fewer digits the text is the beginning
of what it is with more. -/
theorem render_fraction :
    (∀ v u p, Value.HasFraction v u p → ∀ s : Section, s.Grammatical → s.directive = some 'f' →
      ∀ o, ∃ t, render (.text s.text) v o = .ok t ∧
        InDigits t (max p 1).toNat (u / 10 ^ (6 - (max p 1).toNat))) ∧
    (∀ t : TimeOfDay, (Value.time t).HasFraction t.microsecond t.precision) ∧
    (∀ x : DateTime, (Value.datetime x).HasFraction x.time.microsecond x.time.precision) ∧
    ∀ v w u u' p p', Value.HasFraction v u p → Value.HasFraction w u' p' →
      ∀ s s' : Section, s.Grammatical → s.directive = some 'f' →
        s'.Grammatical → s'.directive = some 'f' → ∀ o o',
        (p = 6 → p' = 6 →
          (render (.text s.text) v o = render (.text s'.text) w o' ↔ u = u')) ∧
        (u = u' → p ≤ p' → ∃ t t', render (.text s.text) v o = .ok t ∧
          render (.text s'.text) w o' = .ok t' ∧ t <+: t') := by
  refine ⟨fun v u p h s hs hf o => ⟨_, h.render hs hf o, h.isFraction.inDigits⟩,
    TimeOfDay.hasFraction, DateTime.hasFraction, ?_⟩
  intro v w u u' p p' h h' s s' hs hf hs' hf' o o'
  rw [h.render hs hf o, h'.render hs' hf' o']
  constructor
  · rintro rfl rfl
    rw [Except.ok.injEq]
    exact ⟨h.isFraction.cutFraction_inj h'.isFraction, fun hu => by rw [hu]⟩
  · rintro rfl hp
    exact ⟨_, _, rfl, rfl, cutFraction_prefix u hp⟩

/-- A bare number in a map shows all six digits and can be told from the next one, under a width that
would be longer. A time for which no digit was recorded shows the first of them. -/
theorem render_fraction_bare :
    let bare (n : Int) : Value := .datum (.record [("microsecond".toList, .ofInt n)])
    let t : TimeOfDay := ⟨23, 59, 60, 70, 0, by decide, by decide, by decide, by decide, by decide⟩
    let s : Section := ⟨some .spaces, ['9'], some 'f'⟩
    let o := Options.default
    ((bare 70).HasFraction 70 6 ∧ (bare 71).HasFraction 71 6 ∧ (Value.time t).HasFraction 70 0) ∧
      (s.Grammatical ∧ s.directive = some 'f' ∧ s.text = "%_9f".toList) ∧
      (∃ u, render (.text s.text) (bare 70) o = .ok u ∧ InDigits u 6 70) ∧
      render (.text s.text) (bare 70) o ≠ render (.text s.text) (bare 71) o ∧
      ∃ u u', render (.text s.text) (.time t) o = .ok u ∧
        render (.text s.text) (bare 70) o = .ok u' ∧ u <+: u' := by
  intro bare t s o
  have hbare (n : Int) (hn : 0 ≤ n ∧ n ≤ 999999) : (bare n).HasFraction n 6 :=
    ⟨⟨_, .number n, .number 6, rfl, .inr ⟨rfl, rfl⟩, rfl, rfl⟩, hn, by decide⟩
  have hs : s.Grammatical :=
    Directive.grammatical_of_letter (d := .fraction) rfl (isDigits_numeral 9) (by simp [s])
  obtain ⟨hshown, htime, -, halike⟩ := render_fraction
  have h70 := hbare 70 (by decide)
  have h71 := hbare 71 (by decide)
  have h0 : (Value.time t).HasFraction 70 0 := htime t
  obtain ⟨hinj, -⟩ := halike _ _ _ _ _ _ h70 h71 s s hs rfl hs rfl o o
  obtain ⟨-, hprefix⟩ := halike _ _ _ _ _ _ h0 h70 s s hs rfl hs rfl o o
  refine ⟨⟨h70, h71, h0⟩, ⟨hs, rfl, rfl⟩, ?_, fun h => ?_, hprefix rfl (by decide)⟩
  · exact hshown _ _ _ h70 s hs rfl o
  · exact absurd ((hinj rfl rfl).mp h) (by decide)

end CalendarText
