import CalendarText.Proofs.Components
import CalendarText.Proofs.Filling

/-! Offsets as text. The last two digits are the minutes and those before them the hours, so that an
offset is read back from its text but for its seconds. There may be any number of digits up to
the most that a number is written with. -/

namespace CalendarText

/-- A run of digits comes apart before its last two, as its number does. -/
theorem exists_last_two {t : Text} (ht : IsDigits t) (hl : 2 ≤ t.length) :
    ∃ front back : Text, t = front ++ back ∧ back.length = 2 ∧
      numeralValue front = numeralValue t / 100 ∧ numeralValue back = numeralValue t % 100 := by
  have hb : (t.drop (t.length - 2)).length = 2 := by
    rw [List.length_drop]
    omega
  have hs := List.take_append_drop (t.length - 2) t
  have hd : IsDigits (t.drop (t.length - 2)) := by
    rw [← hs] at ht
    exact (isDigits_append.mp ht).2
  have hlt := numeralValue_lt hd
  have hv := numeralValue_append (t.take (t.length - 2)) (t.drop (t.length - 2))
  rw [hs, hb] at hv
  rw [hb] at hlt
  refine ⟨_, _, hs.symm, hb, ?_, ?_⟩ <;> omega

/-- The text of an offset of so many seconds: hours and minutes as one number, after the sign. -/
def offsetText (total : Int) : Text :=
  (if 0 ≤ total then '+' else '-') ::
    padLeading (numeral (Directive.hoursMinutesOf total)) 4 zeroFill

/-- A sign, at least two digits and two more are read as an offset in hours and minutes. They stand for
a number of seconds if they have its sign and the seconds that are left do not make a minute. -/
structure ReadsAsOffset (t : Text) (total : Int) (hours minutes : Text) : Prop where
  written : t = (if total < 0 then '-' else '+') :: (hours ++ minutes)
  digits : IsDigits hours ∧ IsDigits minutes
  hours_length : 2 ≤ hours.length
  minutes_length : minutes.length = 2
  minutes_lt : numeralValue minutes < 60
  least : 3600 * numeralValue hours + 60 * numeralValue minutes ≤ total.natAbs
  most : total.natAbs < 3600 * numeralValue hours + 60 * numeralValue minutes + 60

theorem exists_readsAsOffset (total : Int) :
    ∃ hours minutes, ReadsAsOffset (offsetText total) total hours minutes := by
  let n := Directive.hoursMinutesOf total
  have hn : n = total.natAbs / 3600 * 100 + total.natAbs / 60 % 60 := rfl
  have hd : IsDigits (padLeading (numeral n) 4 zeroFill) := isDigits_padded_numeral n 4
  have hl := length_padLeading_single (numeral n) 4 '0'
  rw [← zeroFill] at hl
  obtain ⟨hours, minutes, ht, hm, hh, hv⟩ := exists_last_two hd (by omega)
  rw [numeralValue_padded_numeral] at hh hv
  have hsum : (padLeading (numeral n) 4 zeroFill).length = hours.length + minutes.length := by
    rw [ht, List.length_append]
  rw [ht] at hd
  refine ⟨hours, minutes, ?_, isDigits_append.mp hd, by omega, hm, by omega, by omega, by omega⟩
  have hs : (if 0 ≤ total then '+' else '-') = if total < 0 then '-' else '+' := by
    by_cases h : 0 ≤ total
    · rw [if_pos h, if_neg (by omega)]
    · rw [if_neg h, if_pos (by omega)]
  rw [offsetText, hs, ← ht]

theorem sign_offset_inj {s t : Int}
    (h : (if 0 ≤ s then '+' else '-') = if 0 ≤ t then '+' else '-') : s < 0 ↔ t < 0 := by
  by_cases hs : 0 ≤ s <;> by_cases ht : 0 ≤ t
  · omega
  · rw [if_pos hs, if_neg ht] at h
    exact absurd h (by decide)
  · rw [if_neg hs, if_pos ht] at h
    exact absurd h (by decide)
  · omega

/-- Offsets have the same text if they have the same sign and agree in whole minutes. -/
theorem offsetText_eq_iff {s t : Int} :
    offsetText s = offsetText t ↔ (s < 0 ↔ t < 0) ∧ s.natAbs / 60 = t.natAbs / 60 := by
  constructor
  · intro h
    obtain ⟨hc, hn⟩ := List.cons.inj h
    have hv := congrArg numeralValue hn
    rw [numeralValue_padded_numeral, numeralValue_padded_numeral] at hv
    unfold Directive.hoursMinutesOf at hv
    exact ⟨sign_offset_inj hc, by omega⟩
  · rintro ⟨hs, hm⟩
    have hc : 0 ≤ s ↔ 0 ≤ t := by omega
    have hh (n : Nat) : n / 3600 = n / 60 / 60 := by omega
    simp only [offsetText, Directive.hoursMinutesOf, hc, hh, hm]

/-- The fields have both parts of an offset, which make up so many seconds. -/
def Fields.HasOffset (f : Fields) (total : Int) : Prop :=
  ∃ u s : Whole, f.value? .utcOffset = some (.whole u) ∧ f.value? .stdOffset = some (.whole s) ∧
    u.toInt + s.toInt = total

def Fields.LacksOffset (f : Fields) : Prop :=
  f.value? .utcOffset = none ∨ f.value? .stdOffset = none

variable {v : Value} {f : Fields} {o : Options} {total : Int}

theorem hoursMinutesOf_eq {s t : Int} (h : s.natAbs / 60 = t.natAbs / 60) :
    Directive.hoursMinutesOf s = Directive.hoursMinutesOf t := by
  unfold Directive.hoursMinutesOf
  omega

theorem render_offset (hv : Fields.ofValue v = .ok f) (h : f.HasOffset total) :
    render (.text "%z".toList) v o =
      if isShort (Directive.hoursMinutesOf total) then .ok (offsetText total)
      else .error .tooLong := by
  obtain ⟨u, s, hu, hs, rfl⟩ := h
  refine Directive.render_bare (d := .offset) hv ?_
  rw [Directive.renderSection_bare (by simp), Directive.offset_whole hu hs,
    Directive.offsetItem_whole]
  split <;> rfl

theorem render_offset_of_short (hv : Fields.ofValue v = .ok f) (h : f.HasOffset total)
    (hl : isShort (Directive.hoursMinutesOf total) = true) :
    render (.text "%z".toList) v o = .ok (offsetText total) := by
  rw [render_offset hv h, if_pos hl]

theorem format_lacking (h : f.LacksOffset) (m : Modifiers) :
    Directive.offset.format f o m = .ok (.text []) := by
  have ha : f.isAware = false := by
    rcases h with h | h <;> simp [Fields.isAware, h]
  simp [Directive.format, Directive.formatItem, ha]

/-- An offset is read back from its text up to the seconds, however it is made up and whatever its
size, as long as its hours and minutes have few enough digits; otherwise there is no text. Offsets
that read alike have the same text, and no others have. Without one of its parts there is no
offset, and nothing is filled up. -/
theorem render_offset_readsBack :
    (∀ v f total o, Fields.ofValue v = .ok f → f.HasOffset total →
      (isShort (Directive.hoursMinutesOf total) = true →
        ∃ t hours minutes, render (.text "%z".toList) v o = .ok t ∧
          ReadsAsOffset t total hours minutes) ∧
      (isShort (Directive.hoursMinutesOf total) = false →
        render (.text "%z".toList) v o = .error .tooLong)) ∧
    (∀ v w f g total total' o o', Fields.ofValue v = .ok f → f.HasOffset total →
      Fields.ofValue w = .ok g → g.HasOffset total' →
      isShort (Directive.hoursMinutesOf total) = true →
      (render (.text "%z".toList) v o = render (.text "%z".toList) w o' ↔
        (total < 0 ↔ total' < 0) ∧ total.natAbs / 60 = total'.natAbs / 60)) ∧
    ∀ v f o, Fields.ofValue v = .ok f → f.LacksOffset →
      ∀ s : Section, s.Grammatical → s.directive = some 'z' →
        render (.text s.text) v o = .ok [] := by
  refine ⟨fun v f total o hv h => ⟨fun hl => ?_, fun hl => ?_⟩,
    fun v w f g total total' o o' hv h hw h' hl => ?_, fun v f o hv h s hs hz => ?_⟩
  · obtain ⟨hours, minutes, hr⟩ := exists_readsAsOffset total
    exact ⟨_, hours, minutes, render_offset_of_short hv h hl, hr⟩
  · rw [render_offset hv h, hl]
    rfl
  · rw [render_offset_of_short hv h hl, render_offset hw h']
    split
    · rw [Except.ok.injEq, offsetText_eq_iff]
    -- An offset that is too long to be written differs from one that is not.
    · rename_i hl'
      refine ⟨fun he => absurd he (by simp), fun ⟨_, hm⟩ => ?_⟩
      rw [hoursMinutesOf_eq hm] at hl
      exact absurd hl hl'
  · have hn := format_lacking (o := o) h
    rw [render_section (d := .offset) hv hz hs.digits hs.leading]
    simp only [Directive.shown, hn, ok_bind]
    rfl

/-- A hundred hours and a minute behind, with seconds and without, and a standard offset on its own. -/
theorem render_offset_readsBack_long :
    let entries (utc : Int) (std? : Option Whole) : List (Text × Datum) :=
      ("utc_offset".toList, .ofInt utc) ::
        (std?.map fun std => ("std_offset".toList, Datum.whole std)).toList
    let value (e : List (Text × Datum)) : Value := .datum (.record e)
    let fields (e : List (Text × Datum)) : Fields := Fields.ofEntries (.text "dict".toList) e
    let a := entries (-359999) (some (.number (-101)))
    let b := entries (-360061) (some (.flag true))
    let c := entries 3600 none
    let s : Section := ⟨some .spaces, ['9'], some 'z'⟩
    (Fields.ofValue (value a) = .ok (fields a) ∧ (fields a).HasOffset (-360100)) ∧
      (Fields.ofValue (value b) = .ok (fields b) ∧ (fields b).HasOffset (-360060)) ∧
      (Fields.ofValue (value c) = .ok (fields c) ∧ (fields c).LacksOffset) ∧
      s.Grammatical ∧ s.directive = some 'z' ∧ s.text = "%_9z".toList ∧
      (∃ t hours minutes, render (.text "%z".toList) (value a) Options.default = .ok t ∧
        ReadsAsOffset t (-360100) hours minutes) ∧
      render (.text "%z".toList) (value a) Options.default =
        render (.text "%z".toList) (value b) Options.default ∧
      render (.text "%_9z".toList) (value c) Options.default = .ok [] := by
  intro entries value fields a b c s
  have ha : (fields a).HasOffset (-360100) := ⟨_, _, rfl, rfl, rfl⟩
  have hb : (fields b).HasOffset (-360060) := ⟨_, _, rfl, rfl, rfl⟩
  have hc : (fields c).LacksOffset := .inr rfl
  have hs : s.Grammatical :=
    Directive.grammatical_of_letter (d := .offset) rfl (isDigits_numeral 9) (by simp [s])
  obtain ⟨hread, hsame, hnone⟩ := render_offset_readsBack
  refine ⟨⟨rfl, ha⟩, ⟨rfl, hb⟩, ⟨rfl, hc⟩, hs, rfl, rfl,
    (hread (value a) _ _ _ rfl ha).1 (by decide), ?_,
    hnone (value c) _ _ rfl hc s hs rfl⟩
  have hm : (-360100 : Int).natAbs / 60 = (-360060 : Int).natAbs / 60 := by decide
  exact (hsame (value a) (value b) _ _ _ _ _ _ rfl ha rfl hb (by decide)).mpr ⟨by omega, hm⟩

/-- An offset of so many hours has no text. -/
theorem render_offset_tooLong :
    let utc : Int := 3600 * (Nat.pow 10 maxDigits : Nat)
    let entries : List (Text × Datum) :=
      [("utc_offset".toList, .ofInt utc), ("std_offset".toList, .ofInt 0)]
    let f : Fields := Fields.ofEntries (.text "dict".toList) entries
    Fields.ofValue (.datum (.record entries)) = .ok f ∧ f.HasOffset utc ∧
      render (.text "%z".toList) (.datum (.record entries)) Options.default = .error .tooLong := by
  have hl : isShort (Directive.hoursMinutesOf (3600 * (Nat.pow 10 maxDigits : Nat))) = false :=
    isShort_eq_false_iff.mpr (by unfold Directive.hoursMinutesOf; omega)
  generalize (3600 * (Nat.pow 10 maxDigits : Nat) : Int) = n at hl
  intro utc entries f
  have h : f.HasOffset n := ⟨.number n, .number 0, rfl, rfl, by simp⟩
  refine ⟨rfl, h, ?_⟩
  rw [render_offset rfl h, hl]
  rfl

end CalendarText
