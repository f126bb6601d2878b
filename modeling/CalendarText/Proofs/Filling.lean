import CalendarText.Proofs.Contents
import CalendarText.Proofs.Joining
import CalendarText.Proofs.SectionGrammar

/-! Modifiers only fill up. Whatever fill and width a section asks for, it shows what it shows without
any, with copies of the fill between the sign and the rest, and where it fails it fails alike. -/

namespace CalendarText

namespace Directive

/-- The sign that stays in front of the fill: the minus sign of a negative integer, and either sign of
an offset. -/
def sign (d : Directive) (f : Fields) (o : Options) : Text :=
  match d with
  | offset =>
    match f.value? .utcOffset, f.value? .stdOffset with
    | some (.whole u), some (.whole s) => if 0 ≤ u.toInt + s.toInt then ['+'] else ['-']
    | _, _ => []
  | d =>
    match d.content f o with
    | .ok (.whole w) => if w.toInt < 0 then ['-'] else []
    | _ => []

/-- What a directive shows under modifiers, given what the preferred directives expand to. -/
def shown (d : Directive) (f : Fields) (o : Options) (expand : Preferred → Outcome Text)
    (m : Modifiers) : Outcome Datum :=
  match d with
  | preferred p => do return .text (padLeading (← expand p) m.width m.fill)
  | d => d.format f o m

/-- An outcome that modifiers do not change, but for the fill between a sign and the rest. What is
optional may have nothing to show, and then it is not filled up. -/
inductive FillsUp (optional : Prop) (sign : Text) (x : Modifiers → Outcome Datum) : Prop
  | fails (e : Failure) (hx : ∀ m, x m = .error e)
  | silent (ho : optional) (hx : ∀ m, x m = .ok (.text []))
  | shows (u : Text) (hu : optional → sign ++ u ≠ [])
      (hx : ∀ m, x m = .ok (.text (sign ++ padLeading u m.width m.fill)))

theorem FillsUp.of_not {optional : Prop} {sign : Text} {x : Modifiers → Outcome Datum}
    (h : FillsUp False sign x) (hn : ¬optional) : FillsUp optional sign x := by
  rwa [eq_false hn]

variable {f : Fields} {o : Options} {expand : Preferred → Outcome Text} {d : Directive}

theorem renderSection_shown_of_known {s : Section} (hs : s.known? = some d) (k : Nat) :
    renderSection f o expand k s =
      d.shown f o expand (s.resolve d.defaultFill d.defaultWidth) := by
  cases d with
  | preferred p => rw [renderSection_preferred hs]; rfl
  | _ => rw [renderSection_known hs (by simp)]; rfl

theorem shown_padded (hd : d.IsPadded) (m : Modifiers) :
    d.shown f o expand m =
      (do padDatum (← d.content f o) (.ofInt m.width) (.text m.fill)) := by
  cases d with
  | preferred _ | fraction | offset | zoneName => exact hd.elim
  | _ => rfl

theorem padded_fillsUp (hf : f.HasIntegers) (ho : o.OnlyTexts) (hd : d.IsPadded) :
    FillsUp False (d.sign f o) (d.shown f o expand) := by
  have hs : d.sign f o = match d.content f o with
      | .ok (.whole w) => if w.toInt < 0 then ['-'] else []
      | _ => [] := by
    cases d with
    | preferred _ | fraction | offset | zoneName => exact hd.elim
    | _ => rfl
  have hx (m : Modifiers) : d.shown f o expand m = _ := shown_padded hd m
  cases hc : d.content f o with
  | error e => exact .fails e fun m => by rw [hx, hc]; rfl
  | ok x =>
    -- Only a negative integer has a sign that the fill stands behind; a text is filled up as a whole.
    simp only [hc] at hs hx
    rcases content_plain hf ho d x hc with ⟨w, rfl⟩ | ⟨t, rfl⟩
    · by_cases hl : w.isWritable = true
      · by_cases hw : w.toInt < 0
        · refine .shows (numeral w.toInt.natAbs) False.elim fun m => ?_
          simp only [hx, hs, ok_bind, padDatum_whole_of_isWritable hl, padNumber, hw, if_true,
            List.singleton_append]
        · refine .shows w.plain False.elim fun m => ?_
          simp only [hx, hs, ok_bind, padDatum_whole_of_isWritable hl, padNumber, hw, if_false,
            List.nil_append]
      · exact .fails .tooLong fun m => by rw [hx, ok_bind, padDatum_whole, if_neg hl]
    · refine .shows t False.elim fun m => ?_
      rw [hx, hs]
      exact padItem_text t m.width m.fill

theorem offset_fillsUp (hf : f.HasIntegers) :
    FillsUp True (offset.sign f o) (offset.shown f o expand) := by
  by_cases ha : f.isAware
  · obtain ⟨hu, hs⟩ : (f.value? .utcOffset).isSome ∧ (f.value? .stdOffset).isSome := by
      simpa only [Fields.isAware, Bool.and_eq_true] using ha
    obtain ⟨u, hu⟩ := Option.isSome_iff_exists.mp hu
    obtain ⟨s, hs⟩ := Option.isSome_iff_exists.mp hs
    obtain ⟨u, rfl⟩ := hf.whole _ u (by decide) hu
    obtain ⟨s, rfl⟩ := hf.whole _ s (by decide) hs
    have hn : offset.sign f o = [if 0 ≤ u.toInt + s.toInt then '+' else '-'] := by
      simp only [sign, hu, hs]
      split <;> rfl
    have hx (m : Modifiers) := (offset_whole (o := o) hu hs m).trans (offsetItem_whole _ _ _)
    by_cases hl : isShort (hoursMinutesOf (u.toInt + s.toInt)) = true
    · rw [hn]
      exact .shows _ (fun _ => by simp) fun m => (hx m).trans (if_pos hl)
    · exact .fails .tooLong fun m => (hx m).trans (if_neg hl)
  · exact .silent trivial fun m => by simp [shown, format, formatItem, ha]

theorem zoneName_fillsUp (hf : f.HasIntegers) :
    FillsUp True (zoneName.sign f o) (zoneName.shown f o expand) := by
  have hn : ((f.value? .zoneName).getD (.text [])).IsText := by
    cases hx : f.value? .zoneName with
    | none => exact ⟨[], rfl⟩
    | some d => exact hf.zoneName d hx
  obtain ⟨t, ht⟩ := hn
  have hx (m : Modifiers) : zoneName.shown f o expand m =
      if (Datum.text t).truthy then padItem (.text t) (.ofInt m.width) (.text m.fill)
      else .ok (.text []) := by
    rw [← ht]
    rfl
  cases t with
  | nil => exact .silent trivial hx
  | cons c t =>
    refine .shows (c :: t) (fun _ => by simp) fun m => ?_
    rw [hx]
    exact padItem_text (c :: t) m.width m.fill

/-- What a directive other than the fraction shows under modifiers. -/
theorem shown_fillsUp (hf : f.HasIntegers) (ho : o.OnlyTexts) (hd : d ≠ fraction) :
    FillsUp (d = offset ∨ d = zoneName) (d.sign f o) (d.shown f o expand) := by
  cases d with
  | fraction => exact absurd rfl hd
  | offset => simpa using offset_fillsUp hf
  | zoneName => simpa using zoneName_fillsUp hf
  | preferred p =>
    cases he : expand p with
    | error e => exact .fails e fun m => by simp [shown, he]
    | ok t => exact .shows t (by simp) fun m => by simp [shown, he, sign, content]
  | _ => exact .of_not (padded_fillsUp hf ho trivial) (by simp)

def unpadded (d : Directive) : Section :=
  ⟨some .bare, [], some d.letter⟩

/-- A section for the directive that may ask for zeros or spaces and for any width. A zero right after
the percent sign asks for zeros, so no width starts with it. -/
structure Modified (d : Directive) (s : Section) : Prop where
  directive : s.directive = some d.letter
  padded : s.selector ≠ some .bare
  digits : IsDigits s.digits
  leading : s.selector = none → s.digits.head? ≠ some '0'

theorem known?_of_letter {s : Section} (hs : s.directive = some d.letter) : s.known? = some d := by
  rw [Section.known?, hs]
  exact ofLetter?_letter d

/-- No directive can be taken for a modifier. -/
theorem extend?_letter (d : Directive) (e : Section) : e.extend? d.letter = none := by
  have hs : Selector.ofLetter? d.letter = none := by
    cases d with
    | preferred p => cases p <;> rfl
    | _ => rfl
  have hd : isDecimalDigit d.letter = false := by
    cases d with
    | preferred p => cases p <;> decide
    | _ => decide
  simp [Section.extend?, hs, hd]

theorem grammatical_of_letter {s : Section} (hs : s.directive = some d.letter)
    (hd : IsDigits s.digits) (hz : s.selector = none → s.digits.head? ≠ some '0') :
    s.Grammatical := by
  refine ⟨hd, hz, fun c hc => ?_⟩
  rw [hs] at hc
  obtain rfl := Option.some.inj hc
  exact Section.extend?_eq_none_iff.mp (extend?_letter d s)

theorem read_text {s : Section} (hs : s.directive = some d.letter) (hd : IsDigits s.digits)
    (hz : s.selector = none → s.digits.head? ≠ some '0') :
    Template.read s.text = [.directive s] := by
  have hr := Template.read_section (grammatical_of_letter hs hd hz) (by simp [hs]) []
  rwa [List.append_nil] at hr

theorem defaultFill_single (d : Directive) : ∃ c, d.defaultFill = [c] := by
  cases d <;> exact ⟨_, rfl⟩

/-- The modifiers of a section that does not ask for no padding: one character and a width, each as
written or else the default. -/
theorem Modified.resolve {s : Section} (hs : d.Modified s) :
    ∃ c, s.fill?.getD d.defaultFill = [c] ∧
      s.resolve d.defaultFill d.defaultWidth = ⟨(s.width?.getD d.defaultWidth : Nat), [c]⟩ := by
  have hc : ∃ c, s.fill?.getD d.defaultFill = [c] := by
    rw [Section.fill?]
    cases hx : s.selector with
    | none => exact d.defaultFill_single
    | some x =>
      cases x with
      | bare => exact absurd hx hs.padded
      | zeros | spaces => exact ⟨_, rfl⟩
  obtain ⟨c, hc⟩ := hc
  refine ⟨c, hc, ?_⟩
  rw [Section.resolve, hc, if_neg (by simp [noFill])]
  cases s.width? <;> rfl

end Directive

open Directive in
/-- A section on its own shows what its directive shows. -/
theorem render_section {v : Value} {f : Fields} {o : Options} {d : Directive} {s : Section}
    (hv : Fields.ofValue v = .ok f) (hs : s.directive = some d.letter) (hd : IsDigits s.digits)
    (hz : s.selector = none → s.digits.head? ≠ some '0') :
    render (.text s.text) v o = (do
      joinTexts [← d.shown f o (expansion f o Preferred.all)
        (s.resolve d.defaultFill d.defaultWidth)]) := by
  rw [render_eq_renderWithin hv, renderWithin_eq, read_text hs hd hz, joined, renderPieces_directive,
    renderSection_shown_of_known (known?_of_letter hs)]
  cases d.shown f o (expansion f o Preferred.all) (s.resolve d.defaultFill d.defaultWidth) <;> rfl

theorem render_section_error {v : Value} {f : Fields} {o : Options} {d : Directive} {s : Section}
    {e : Failure} (hv : Fields.ofValue v = .ok f) (hs : s.directive = some d.letter)
    (hd : IsDigits s.digits) (hz : s.selector = none → s.digits.head? ≠ some '0')
    (he : d.shown f o (expansion f o Preferred.all) (s.resolve d.defaultFill d.defaultWidth) =
      .error e) :
    render (.text s.text) v o = .error e := by
  rw [render_section hv hs hd hz, he]
  rfl

theorem render_unpadded {v : Value} {f : Fields} {o : Options} (d : Directive)
    (hv : Fields.ofValue v = .ok f) :
    render (.text d.unpadded.text) v o = (do
      joinTexts [← d.shown f o (expansion f o Preferred.all) ⟨0, noFill⟩]) :=
  render_section (s := d.unpadded) hv rfl (by simp [Directive.unpadded, IsDigits])
    (by simp [Directive.unpadded])

theorem padNumber_noFill (w : Whole) (width : Int) : padNumber w width noFill = w.plain := by
  unfold padNumber
  split
  · rename_i hw
    cases w with
    | number n =>
      obtain ⟨k, rfl⟩ := Int.eq_negSucc_of_lt_zero hw
      exact congrArg (List.cons '-') (padLeading_noFill _ _)
    | flag b => cases b <;> exact absurd hw (by decide)
  · exact padLeading_noFill _ _

/-- Without padding a directive prints its datum. -/
theorem render_unpadded_plain {v : Value} {f : Fields} {o : Options} {d : Directive} {x : Datum}
    (hv : Fields.ofValue v = .ok f) (hc : d.content f o = .ok x) (hd : d.IsPadded)
    (hx : x.IsShown) : render (.text d.unpadded.text) v o = .ok x.plain := by
  have hp : padDatum x (.ofInt 0) (.text noFill) = .ok (.text x.plain) := by
    rcases hx with ⟨w, rfl, hw⟩ | ⟨t, rfl⟩
    · rw [padDatum_whole_of_isWritable hw, padNumber_noFill]
      rfl
    · have hl : padLeading t 0 noFill = t := padLeading_noFill t 0
      exact (padItem_text t 0 noFill).trans (congrArg (Except.ok ∘ Datum.text) hl)
  rw [render_unpadded d hv, Directive.shown_padded hd, hc, ok_bind, hp]
  simp [joinTexts]

open Directive in
/-- A section with modifiers shows the text that the directive shows without any, filled up behind the
sign to the width. Only an offset or a zone name may be empty, and that it stays. -/
theorem render_modified {v : Value} {o : Options} {d : Directive} {s : Section}
    (hv : ∀ f, Fields.ofValue v = .ok f → f.HasIntegers) (ho : o.OnlyTexts) (hd : d ≠ fraction)
    (hs : d.Modified s) :
    (∀ e, render (.text d.unpadded.text) v o = .error e → render (.text s.text) v o = .error e) ∧
    ∀ t, render (.text d.unpadded.text) v o = .ok t →
      ((d = offset ∨ d = zoneName) ∧ t = [] → render (.text s.text) v o = .ok []) ∧
      (¬((d = offset ∨ d = zoneName) ∧ t = []) →
        ∃ f c u, Fields.ofValue v = .ok f ∧ s.fill?.getD d.defaultFill = [c] ∧
          t = d.sign f o ++ u ∧
          let width := s.width?.getD d.defaultWidth
          let filled := d.sign f o ++ (List.replicate (width - u.length) c ++ u)
          render (.text s.text) v o = .ok filled ∧
            filled.length = max t.length ((d.sign f o).length + width)) := by
  cases hf : Fields.ofValue v with
  | error e => simp [render, hf]
  | ok f =>
    obtain ⟨c, hc, hm⟩ := hs.resolve
    rw [render_unpadded d hf, render_section hf hs.directive hs.digits hs.leading, hm]
    have hx : FillsUp _ (d.sign f o) (d.shown f o (expansion f o Preferred.all)) :=
      shown_fillsUp (hv f hf) ho hd
    cases hx with
    | fails e hx => simp [hx]
    | silent hp hx => simp [hx, joinTexts, hp]
    | shows u hu hx =>
      have hl (t : Text) : joinTexts [.text t] = .ok t := by simp [joinTexts]
      simp only [hx, ok_bind, hl, padLeading_noFill, padLeading_single, noFill, Int.toNat_sub,
        Except.ok.injEq]
      refine ⟨by simp, ?_⟩
      rintro _ rfl
      refine ⟨fun h => absurd h.2 (hu h.1), fun _ => ⟨f, c, u, rfl, hc, rfl, rfl, ?_⟩⟩
      simp only [List.length_append, List.length_replicate]
      omega

/-- The zeros of a negative year stand behind its sign and do not count it. -/
theorem render_modified_negative :
    let d : Date := ⟨-44, 3, .number 15, by decide, by decide, by decide⟩
    let v : Value := .date d
    let s : Section := ⟨some .zeros, ['7'], some 'Y'⟩
    (∀ f, Fields.ofValue v = .ok f → f.HasIntegers) ∧ Options.default.OnlyTexts ∧
      Directive.year ≠ .fraction ∧ Directive.year.Modified s ∧ s.text = "%07Y".toList ∧
      render (.text "%-Y".toList) v Options.default = .ok "-44".toList ∧
      render (.text s.text) v Options.default = .ok "-0000044".toList := by
  intro d v s
  have hv (f : Fields) (hf : Fields.ofValue v = .ok f) : f.HasIntegers := by
    obtain rfl := Except.ok.inj hf
    exact (Date.published_sound _ _).hasIntegers
  have hs : Directive.year.Modified s := ⟨rfl, by decide, isDigits_numeral 7, by decide⟩
  have hd : Directive.year ≠ .fraction := by decide
  have ht : render (.text "%-Y".toList) v Options.default = .ok "-44".toList := by
    have hc : Directive.year.content ⟨.text v.kind, d.published⟩ Options.default =
        .ok (.whole (.number (-44))) := rfl
    exact (render_unpadded_plain rfl hc trivial (.inl ⟨_, rfl, by decide⟩)).trans (by decide)
  obtain ⟨f, c, u, hf, hc, hu, hr, -⟩ :=
    ((render_modified hv Options.onlyTexts_default hd hs).2 _ ht).2 (by decide)
  obtain rfl := Except.ok.inj hf
  obtain rfl := List.singleton_inj.mp hc
  obtain rfl := List.append_cancel_left (show ['-'] ++ "44".toList = ['-'] ++ u from hu)
  exact ⟨hv, Options.onlyTexts_default, hd, hs, rfl, ht, hr⟩

end CalendarText
