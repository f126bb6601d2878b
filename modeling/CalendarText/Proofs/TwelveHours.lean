import CalendarText.Proofs.Components
import CalendarText.Proofs.DateFields
import CalendarText.Proofs.Filling

/-! The clock of twelve hours. The hour it shows and the half of the day make up the hour between them,
so that the clock tells the time exactly if the names of the halves can be told apart in capital
letters. -/

namespace CalendarText

/-- The hour that a clock of twelve hours shows. -/
def hourOnClock (hour : Int) : Int :=
  (hour + 23) % 12 + 1

theorem hourOnClock_mem (hour : Int) : 1 ≤ hourOnClock hour ∧ hourOnClock hour ≤ 12 := by
  unfold hourOnClock
  omega

theorem isShort_hourOnClock (hour : Int) : isShort (hourOnClock hour) = true := by
  have hm := hourOnClock_mem hour
  exact isShort_of_lt (by omega)

theorem hourOnClock_emod (hour : Int) : hourOnClock hour % 12 = hour % 12 := by
  unfold hourOnClock
  omega

/-- The hour on the clock leaves two hours of a day, one in each half. -/
theorem hour_eq_of_clock {h k : Int} (hh : 0 ≤ h ∧ h ≤ 23) (hk : 0 ≤ k ∧ k ≤ 23)
    (hc : hourOnClock h = hourOnClock k) (hhalf : 12 ≤ h ↔ 12 ≤ k) : h = k := by
  unfold hourOnClock at hc
  omega

/-- The name of a half of the day in other letters, which only a text has. -/
def Options.halfIn (o : Options) (letters : Text → Text) (m : Meridiem) : Outcome Text := do
  match ← o.halfName m with
  | .text t => return letters t
  | _ => .error .noAttribute

theorem Options.halfIn_pair {o : Options} {am pm : Text}
    (hn : o.halfNames.names? = some [.text am, .text pm]) (letters : Text → Text) :
    o.halfIn letters .am = .ok (letters am) ∧ o.halfIn letters .pm = .ok (letters pm) := by
  unfold halfIn halfName
  cases hs : o.halfNames with
  | rule name => simp [hs, NameSource.names?] at hn
  | table names fits =>
    rw [hs] at hn
    obtain rfl : names = [.text am, .text pm] := Option.some.inj hn
    exact ⟨rfl, rfl⟩

section Half

variable {f : Fields} {o : Options} {expand : Preferred → Outcome Text} {hour : Whole}

theorem Directive.content_halfDayHour (hh : f.value? .hour = some (.whole hour)) :
    halfDayHour.content f o = .ok (.whole (.number (hourOnClock hour.toInt))) := by
  rw [content, Fields.require_of_value hh]
  rfl

theorem Directive.halfText_whole (hh : f.value? .hour = some (.whole hour)) (d : Directive) :
    d.halfText f o = o.halfIn id (Meridiem.ofHourNumber hour.toInt) := by
  rw [halfText, Fields.require_of_value hh, ok_bind, Meridiem.ofHour_whole, ok_bind]
  rfl

/-- A directive that shows the name of the half of the day in its own letters. -/
structure Directive.ShowsHalf (d : Directive) (letters : Text → Text) : Prop where
  padded : d.IsPadded
  width : d.defaultWidth = 0
  content : ∀ f o, d.content f o = do return .text (letters (← d.halfText f o))

theorem Directive.upperHalf_showsHalf : upperHalf.ShowsHalf upperText :=
  ⟨trivial, rfl, fun _ _ => rfl⟩

theorem Directive.lowerHalf_showsHalf : lowerHalf.ShowsHalf lowerText :=
  ⟨trivial, rfl, fun _ _ => rfl⟩

theorem Directive.ShowsHalf.renderSection {d : Directive} {letters : Text → Text}
    (hd : d.ShowsHalf letters) (hh : f.value? .hour = some (.whole hour)) (k : Nat) :
    renderSection f o expand k d.bare =
      (do return .text (← o.halfIn letters (Meridiem.ofHourNumber hour.toInt))) := by
  have hp (t : Text) : padDatum (.text t) (.ofInt 0) (.text d.defaultFill) = .ok (.text t) := by
    refine (padItem_text t 0 d.defaultFill).trans ?_
    rw [padLeading_of_le _ (Int.natCast_nonneg _)]
  rw [renderSection_bare (by rintro p rfl; exact hd.padded), format_padded hd.padded, hd.content,
    halfText_whole hh, hd.width, Options.halfIn, Options.halfIn]
  cases o.halfName (Meridiem.ofHourNumber hour.toInt) with
  | error e => rfl
  | ok name =>
    cases name with
    | text t => exact hp (letters t)
    | _ => rfl

theorem Directive.ShowsHalf.render {d : Directive} {letters : Text → Text}
    (hd : d.ShowsHalf letters) {v : Value} (hv : Fields.ofValue v = .ok f)
    (hh : f.value? .hour = some (.whole hour)) :
    render (.text d.bare.text) v o =
      o.halfIn letters (Meridiem.ofHourNumber hour.toInt) :=
  render_bare hv (hd.renderSection hh 0)

end Half

def twelveHourTemplate : Text := "%I:%M:%S %p".toList

namespace TimeOfDay

/-- The view of a time of day that the directives read. -/
def fields (t : TimeOfDay) : Fields :=
  ⟨.text (Value.time t).kind, t.published⟩

/-- The time on a clock of twelve hours, with a name for the half of the day. -/
def twelveHourText (t : TimeOfDay) (name : Text) : Text :=
  padNumber (.number (hourOnClock t.hour)) 2 zeroFill ++
    ':' :: (padNumber (.number t.minute) 2 zeroFill ++
      ':' :: (padNumber (.number t.second) 2 zeroFill ++ ' ' :: name))

theorem render_twelveHour (t : TimeOfDay) (o : Options) :
    render (.text twelveHourTemplate) (.time t) o =
      (do return t.twelveHourText (← o.halfIn upperText (Meridiem.ofHourNumber t.hour))) := by
  have hr : Template.read twelveHourTemplate =
      [.directive Directive.halfDayHour.bare, .literal ':', .directive Directive.minute.bare,
        .literal ':', .directive Directive.second.bare, .literal ' ',
        .directive Directive.upperHalf.bare] := rfl
  have hh : t.fields.value? .hour = some (.whole t.hour) := rfl
  have hm : t.fields.value? .minute = some (.whole t.minute) := rfl
  have hs : t.fields.value? .second = some (.whole t.second) := rfl
  have hml : isShort t.minute = true := isShort_of_lt (by have := t.minute_mem; omega)
  have hsl : isShort t.second = true := isShort_of_lt (by have := t.second_mem; omega)
  rw [render_eq_renderWithin (f := t.fields) rfl, renderWithin_eq, hr,
    joined_text (Directive.renderSection_whole (d := .halfDayHour) trivial
      (Directive.content_halfDayHour hh) (isShort_hourOnClock _) 0),
    joined_literal, joined_text (Directive.renderSection_shown (d := .minute) rfl hm hml _),
    joined_literal, joined_text (Directive.renderSection_shown (d := .second) rfl hs hsl _),
    joined_literal, joined_outcome (Directive.upperHalf_showsHalf.renderSection hh _),
    Whole.toInt_number]
  cases o.halfIn upperText (Meridiem.ofHourNumber t.hour) <;> rfl

theorem twelveHourText_inj {a b : TimeOfDay} {s t : Text}
    (h : a.twelveHourText s = b.twelveHourText t) :
    hourOnClock a.hour = hourOnClock b.hour ∧ a.minute = b.minute ∧ a.second = b.second ∧
      s = t := by
  have hsep (u : Text) : EndsDigits (':' :: u) := endsDigits_cons.mpr rfl
  have hspace (u : Text) : EndsDigits (' ' :: u) := endsDigits_cons.mpr rfl
  obtain ⟨hh, h⟩ := padNumber_append_inj (hsep _) (hsep _) h
  obtain ⟨hm, h⟩ := padNumber_append_inj (hsep _) (hsep _) (List.cons.inj h).2
  obtain ⟨hs, h⟩ := padNumber_append_inj (hspace _) (hspace _) (List.cons.inj h).2
  exact ⟨hh, hm, hs, (List.cons.inj h).2⟩

def midnight : TimeOfDay :=
  ⟨0, 0, 0, 0, 0, by decide, by decide, by decide, by decide, by decide⟩

def noon : TimeOfDay :=
  ⟨12, 0, 0, 0, 0, by decide, by decide, by decide, by decide, by decide⟩

end TimeOfDay

namespace Options

/-- Times of day that have the same text on the clock of twelve hours are the same to the second. -/
def TellsTime (o : Options) : Prop :=
  ∀ (a b : TimeOfDay) (r : Text), render (.text twelveHourTemplate) (.time a) o = .ok r →
    render (.text twelveHourTemplate) (.time b) o = .ok r →
    a.hour = b.hour ∧ a.minute = b.minute ∧ a.second = b.second

variable {o : Options} {am pm : Text}

/-- The text of a time under names that are a pair of texts. -/
theorem render_twelveHour_pair (hn : o.halfNames.names? = some [.text am, .text pm])
    (t : TimeOfDay) :
    render (.text twelveHourTemplate) (.time t) o =
      .ok (t.twelveHourText (upperText (if 12 ≤ t.hour then pm else am))) := by
  rw [t.render_twelveHour, Meridiem.ofHourNumber]
  split
  · rw [(halfIn_pair hn upperText).2]
    rfl
  · rw [(halfIn_pair hn upperText).1]
    rfl

theorem tellsTime_iff (hn : o.halfNames.names? = some [.text am, .text pm]) :
    o.TellsTime ↔ upperText am ≠ upperText pm := by
  have hr := render_twelveHour_pair hn
  constructor
  · intro h he
    -- Noon and midnight show the same hour, and nothing else in their texts tells them apart.
    have hmidnight := hr .midnight
    rw [if_neg (by decide), he] at hmidnight
    have hnoon := hr .noon
    rw [if_pos (by decide)] at hnoon
    exact absurd (h .midnight .noon _ hmidnight hnoon).1 (by decide)
  · intro hne a b r ha hb
    rw [hr] at ha hb
    obtain ⟨hc, hm, hs, hname⟩ :=
      TimeOfDay.twelveHourText_inj (Except.ok.inj (ha.trans hb.symm))
    have hhalf : 12 ≤ a.hour ↔ 12 ≤ b.hour := by
      by_cases ha12 : 12 ≤ a.hour <;> by_cases hb12 : 12 ≤ b.hour
      · exact iff_of_true ha12 hb12
      · rw [if_pos ha12, if_neg hb12] at hname
        exact absurd hname.symm hne
      · rw [if_neg ha12, if_pos hb12] at hname
        exact absurd hname hne
      · exact iff_of_false ha12 hb12
    exact ⟨hour_eq_of_clock a.hour_mem b.hour_mem hc hhalf, hm, hs⟩

end Options

/-- Under a pair of names the clock of twelve hours tells the time exactly if the names differ in
capital letters. The hour it shows lies between 1 and 12 and agrees with the hour of the day up to
whole turns of the clock, and from noon on the name is that of the second half, for hours however
large. -/
theorem twelveHourClock_tellsTime_iff (o : Options) :
    (∀ am pm : Text, o.halfNames.names? = some [.text am, .text pm] →
      (∀ letters, o.halfIn letters .am = .ok (letters am) ∧
        o.halfIn letters .pm = .ok (letters pm)) ∧
      (∀ t : TimeOfDay, ∃ r, render (.text twelveHourTemplate) (.time t) o = .ok r) ∧
      (o.TellsTime ↔ upperText am ≠ upperText pm)) ∧
    ∀ (v : Value) (f : Fields) (hour : Whole), Fields.ofValue v = .ok f →
      f.value? .hour = some (.whole hour) →
      (∃ n : Int, render (.text "%-I".toList) v o = .ok (signedNumeral n) ∧
        (1 ≤ n ∧ n ≤ 12) ∧ n % 12 = hour.toInt % 12) ∧
      let half := if 12 ≤ hour.toInt then Meridiem.pm else .am
      render (.text "%p".toList) v o = o.halfIn upperText half ∧
        render (.text "%P".toList) v o = o.halfIn lowerText half := by
  refine ⟨fun am pm hn => ⟨Options.halfIn_pair hn, fun t => ?_, Options.tellsTime_iff hn⟩,
    fun v f hour hv hh => ⟨?_, ?_⟩⟩
  · exact ⟨_, Options.render_twelveHour_pair hn t⟩
  · refine ⟨hourOnClock hour.toInt, ?_, hourOnClock_mem _, hourOnClock_emod _⟩
    exact render_unpadded_plain hv (Directive.content_halfDayHour hh) trivial
      (.inl ⟨_, rfl, isShort_hourOnClock _⟩)
  · exact ⟨Directive.upperHalf_showsHalf.render hv hh, Directive.lowerHalf_showsHalf.render hv hh⟩

/-- Two names with the same capital letters leave noon and midnight alike. The hour before midnight is
the eleventh of the first half. -/
theorem twelveHourClock_tellsTime_iff_sharp_s :
    let o : Options :=
      { Options.default with halfNames := .table [.text "ß".toList, .text "ss".toList] rfl }
    let v : Value := .datum (.record [(Field.hour.name, .ofInt (-1))])
    o.halfNames.names? = some [.text "ß".toList, .text "ss".toList] ∧ ¬o.TellsTime ∧
      render (.text "%-I".toList) v o = .ok "11".toList ∧
      render (.text "%p".toList) v o = .ok "SS".toList ∧
      render (.text "%P".toList) v o = .ok "ß".toList := by
  intro o v
  obtain ⟨hnames, hhour⟩ := twelveHourClock_tellsTime_iff o
  have hn : o.halfNames.names? = some [.text "ß".toList, .text "ss".toList] := rfl
  obtain ⟨hin, -, htells⟩ := hnames _ _ hn
  obtain ⟨⟨n, hI, hn12, hmod⟩, hp, hP⟩ := hhour v _ (.number (-1)) rfl rfl
  obtain rfl : n = 11 := by
    rw [Whole.toInt_number] at hmod
    omega
  have hupper : upperText "ß".toList = upperText "ss".toList := by decide
  exact ⟨hn, fun h => htells.mp h hupper, hI, hp.trans (hin upperText).1,
    hP.trans (hin lowerText).1⟩

end CalendarText
