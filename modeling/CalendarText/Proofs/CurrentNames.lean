import CalendarText.Proofs.DateFields
import CalendarText.Proofs.Filling
import CalendarText.Proofs.InForce

/-! Names are those of the settings in force. However options have come about, each index has the name
that was set last for it, short names without a source of their own are cut from the full names
and to the length that are in force, and the directives print the names of the numbers they print.
An index without a name is refused as long as it can be written. -/

namespace CalendarText

namespace NameSetting

/-- What is set for an index: the entry of a table or the answer of a rule. -/
def entry (m : NameSetting Whole) (w : Whole) : Outcome Datum :=
  match m with
  | .rule name => name w
  | .datum (.list names) | .datum (.tuple names) => (Names.table names).entry w
  | .datum _ => .error .noEntry

def GivesTexts (m : NameSetting Whole) (size : Int) : Prop :=
  ∀ w : Whole, 1 ≤ w.toInt → w.toInt ≤ size → ∃ t, m.entry w = .ok (.text t)

variable {label : Text} {size : Int} {m : NameSetting Whole}

theorem givesTexts_table (names : List Text) (h : (names.length : Int) = size) :
    GivesTexts (.datum (.tuple (names.map .text))) size := by
  intro w h1 hw
  exact Names.entry_texts h1 (by omega)

theorem entry_of_check {source : NameSource Whole size} (h : m.check label size = .ok source)
    (w : Whole) : source.plain.entry w = m.entry w := by
  have table (names : List Datum) (ht : tableOf label size names = .ok source) :
      source.plain = .table names := by
    unfold tableOf at ht
    split at ht
    · rw [← Except.ok.inj ht]
      rfl
    · exact absurd ht (by simp)
  cases m with
  | rule name => rw [← Except.ok.inj h]; rfl
  | datum d =>
    cases d with
    | list names => rw [table names h]; rfl
    | tuple names => rw [table names h]; rfl
    | _ => exact absurd h (by simp [check])

end NameSetting

/-- The full and the short name that are set for an index. Where no short names are set, the short one
is the first characters of the full one. -/
structure SetNames (full short : NameSetting Whole) (length : Nat) (w : Whole) (t u : Text) :
    Prop where
  full : full.entry w = .ok (.text t)
  short : if short.isNull then u = t.take length else short.entry w = .ok (.text u)

/-- A naming and its short form give the names that are set, and no others. They refuse every index that
does not lie between one and the size, but for those that are too long to be named by a refusal. -/
def Naming.AsSet (size : Int) (full short : NameSetting Whole) (length : Nat)
    (n n' : Naming) : Prop :=
  ∀ w : Whole,
    (1 ≤ w.toInt ∧ w.toInt ≤ size → ∃ t u, SetNames full short length w t u ∧
      n.name (.whole w) = .ok (.text t) ∧ n'.name (.whole w) = .ok (.text u)) ∧
    (¬(1 ≤ w.toInt ∧ w.toInt ≤ size) →
      let failure : Failure := if w.isWritable then
          .refused (.indexOutOfRange n.label (.ofInt size) (.whole w))
        else .tooLong
      n.name (.whole w) = .error failure ∧ n'.name (.whole w) = .error failure)

theorem Naming.asSet_of_check {label : Text} {size : Int} {full short : NameSetting Whole}
    {source : NameSource Whole size} {short? : Option (NameSource Whole size)} (length : Nat)
    (hz : isShort size = true) (h : full.check label size = .ok source)
    (h' : Options.checkShort label size short = .ok short?)
    (ht : full.GivesTexts size) (hs : short.isNull = false → short.GivesTexts size) :
    AsSet size full short length ⟨.text label, .ofInt size, source.plain⟩
      (Naming.short ⟨.text label, .ofInt size, source.plain⟩ short? length) := by
  intro w
  constructor
  · intro hw
    obtain ⟨t, hf⟩ := ht w hw.1 hw.2
    have hn := name_whole (.text label) size source.plain w
    rw [if_pos hw, NameSetting.entry_of_check h, hf] at hn
    unfold Options.checkShort at h'
    split at h'
    · rename_i hnull
      obtain rfl := Except.ok.inj h'
      refine ⟨t, t.take length, ⟨hf, by rw [if_pos hnull]⟩, hn, ?_⟩
      rw [Naming.short, shortened, name_rule hw.1 hw.2, hn]
      rfl
    · rename_i hnull
      obtain ⟨source', hc, hx⟩ := bind_eq_ok_iff.mp h'
      obtain rfl := Except.ok.inj hx
      obtain ⟨u, hu⟩ := hs (Bool.eq_false_iff.mpr hnull) w hw.1 hw.2
      refine ⟨t, u, ⟨hf, by rwa [if_neg hnull]⟩, hn, ?_⟩
      simp only [Naming.short, name_whole, if_pos hw, NameSetting.entry_of_check hc, hu]
  · intro hw
    have refuses (names : Names Whole) :
        Naming.name ⟨.text label, .ofInt size, names⟩ (.whole w) = .error (if w.isWritable then
          .refused (.indexOutOfRange (.text label) (.ofInt size) (.whole w)) else .tooLong) := by
      rw [name_whole, if_neg hw, raised_indexOutOfRange label hz]
    -- Names that are cut refuse an index on their own account, before the full name is asked for.
    refine ⟨refuses _, ?_⟩
    cases short? with
    | some source' => exact refuses _
    | none => exact refuses _

namespace Settings

def months (s : Settings) : NameSetting Whole := s.monthNames.getD (.datum .null)

def shortMonths (s : Settings) : NameSetting Whole := s.shortMonthNames.getD (.datum .null)

def weekdays (s : Settings) : NameSetting Whole := s.weekdayNames.getD (.datum .null)

def shortWeekdays (s : Settings) : NameSetting Whole := s.shortWeekdayNames.getD (.datum .null)

/-- The names of months and weekdays are set to texts. -/
structure GivesTexts (s : Settings) : Prop where
  months : s.months.GivesTexts 12
  shortMonths : s.shortMonths.isNull = false → s.shortMonths.GivesTexts 12
  weekdays : s.weekdays.GivesTexts 7
  shortWeekdays : s.shortWeekdays.isNull = false → s.shortWeekdays.GivesTexts 7

end Settings

theorem Options.Checked.shortLength_eq {s : Settings} {o : Options} (h : Checked s o) :
    s.shortLength = some (.ofInt o.shortLength) := by
  have hl := h.shortLength
  unfold checkLength at hl
  split at hl
  · rename_i n hn
    rw [← Except.ok.inj hl]
    cases hs : s.shortLength with
    | none => simp [hs] at hn
    | some d =>
      rw [hs] at hn
      exact congrArg some hn
  · exact absurd hl (by simp)

/-- What directives print that show a number and the two names of that number. -/
theorem Naming.AsSet.render {size : Int} {full short : NameSetting Whole} {length : Nat}
    {n n' : Naming} (h : AsSet size full short length n n') {v : Value} {f : Fields} {o : Options}
    (hv : Fields.ofValue v = .ok f) {w : Whole} {number name shortName : Directive}
    (hc : number.content f o = .ok (.whole w)) (hn : name.content f o = n.name (.whole w))
    (hn' : shortName.content f o = n'.name (.whole w)) (hw : 1 ≤ w.toInt ∧ w.toInt ≤ size)
    (hl : w.isWritable = true)
    (hp : number.IsPadded ∧ name.IsPadded ∧ shortName.IsPadded) :
    ∃ t u, SetNames full short length w t u ∧
      render (.text number.unpadded.text) v o = .ok w.plain ∧
      render (.text name.unpadded.text) v o = .ok t ∧
      render (.text shortName.unpadded.text) v o = .ok u := by
  obtain ⟨t, u, hs, ht, hu⟩ := (h w).1 hw
  exact ⟨t, u, hs, render_unpadded_plain hv hc hp.1 (.inl ⟨w, rfl, hl⟩),
    render_unpadded_plain hv (hn.trans ht) hp.2.1 (.inr ⟨t, rfl⟩),
    render_unpadded_plain hv (hn'.trans hu) hp.2.2 (.inr ⟨u, rfl⟩)⟩

/-- The parts of options made by any sequence of constructions and changes are those in force, their
namings answer by them, and a rendering prints the names of the numbers that it prints. -/
theorem names_in_force {s : Settings} {o : Options} (hb : Options.Built s o) (hs : s.GivesTexts) :
    Options.Checked s o ∧ s.shortLength = some (.ofInt o.shortLength) ∧
      Naming.AsSet 12 s.months s.shortMonths o.shortLength o.months o.shortMonths ∧
      Naming.AsSet 7 s.weekdays s.shortWeekdays o.shortLength o.weekdays o.shortWeekdays ∧
      ∀ v f y m d, Fields.ofValue v = .ok f → f.HasDate y m d →
        (∃ t u, SetNames s.months s.shortMonths o.shortLength m t u ∧
          render (.text "%-m".toList) v o = .ok m.plain ∧
          render (.text "%-B".toList) v o = .ok t ∧
          render (.text "%-b".toList) v o = .ok u) ∧
        let n := Gregorian.dayOfWeek y.toInt m.toInt d.toInt
        ∃ t u, SetNames s.weekdays s.shortWeekdays o.shortLength (.number n) t u ∧
          render (.text "%-u".toList) v o = .ok (signedNumeral n) ∧
          render (.text "%-A".toList) v o = .ok t ∧
          render (.text "%-a".toList) v o = .ok u := by
  have hc := hb.checked
  have hm : Naming.AsSet 12 s.months s.shortMonths o.shortLength o.months o.shortMonths := by
    rw [o.shortMonths_eq]
    exact Naming.asSet_of_check _ (by decide) hc.monthNames hc.shortMonthNames hs.months
      hs.shortMonths
  have hw : Naming.AsSet 7 s.weekdays s.shortWeekdays o.shortLength o.weekdays o.shortWeekdays := by
    rw [o.shortWeekdays_eq]
    exact Naming.asSet_of_check _ (by decide) hc.weekdayNames hc.shortWeekdayNames hs.weekdays
      hs.shortWeekdays
  refine ⟨hc, hc.shortLength_eq, hm, hw, fun v f y m d hf hd => ⟨?_, ?_⟩⟩
  · have hr (tag : Datum) := Fields.require_of_value hd.month tag
    have full : Directive.monthName.content f o = o.months.name (.whole m) := by
      rw [Directive.content, hr, ok_bind]
    have short : Directive.shortMonthName.content f o = o.shortMonths.name (.whole m) := by
      rw [Directive.content, hr, ok_bind]
    have number : Directive.month.content f o = .ok (.whole m) := hr _
    have hl : m.isWritable = true := by
      have h12 := hd.isDate.month_mem
      exact Whole.isWritable_of_isShort (isShort_of_lt (by omega))
    exact hm.render hf number full short hd.isDate.month_mem hl ⟨trivial, trivial, trivial⟩
  · intro n
    have hr (tag : Datum) : f.dayOfWeek tag = .ok (.whole (.number n)) := hd.dayOfWeek tag
    have full : Directive.weekdayName.content f o = o.weekdays.name (.whole (.number n)) := by
      rw [Directive.content, hr, ok_bind]
    have short :
        Directive.shortWeekdayName.content f o = o.shortWeekdays.name (.whole (.number n)) := by
      rw [Directive.content, hr, ok_bind]
    have number : Directive.weekday.content f o = .ok (.whole (.number n)) := hr _
    have h7 := Gregorian.weekdayOfOrdinal_mem (Gregorian.ordinal y.toInt m.toInt d.toInt)
    have hl : (Whole.number n).isWritable = true := Gregorian.isShort_weekdayOfOrdinal _
    exact hw.render hf number full short h7 hl ⟨trivial, trivial, trivial⟩

/-- Short names of two characters come from an environment, and then the names of the weekdays are
replaced: the short names follow. -/
theorem names_in_force_replaced :
    let weekdays : List Text := ["lundi".toList, "mardi".toList, "mercredi".toList, "jeudi".toList,
      "vendredi".toList, "samedi".toList, "dimanche".toList]
    let e : Environment := [(Environment.lengthVariable, .text "2".toList)]
    let base : Settings := { Settings.empty with shortLength := some (.ofInt 2) }
    let changes : Settings :=
      { Settings.empty with weekdayNames := some (.datum (.tuple (weekdays.map .text))) }
    let s : Settings := changes.onto ((Settings.empty.onto base).onto Options.default.settings)
    let v : Value := .date ⟨2024, 2, .number 29, by decide, by decide, by decide⟩
    ∃ o o', Options.ofEnvironment e ⟨Settings.empty, []⟩ = .ok o ∧
      o.replaceKeywords ⟨changes, []⟩ = .ok o' ∧ Options.Built s o' ∧ s.GivesTexts ∧
      render (.text "%-u".toList) v o' = .ok "4".toList ∧
      render (.text "%-A".toList) v o' = .ok "jeudi".toList ∧
      render (.text "%-a".toList) v o' = .ok "je".toList := by
  intro weekdays e base changes s v
  have he : e.settings = .ok base := rfl
  have ho : Options.ofEnvironment e ⟨Settings.empty, []⟩ =
      .ok { Options.default with shortLength := 2 } := rfl
  have hr : Options.replaceKeywords { Options.default with shortLength := 2 } ⟨changes, []⟩ =
      .ok { Options.default with
        shortLength := 2
        weekdayNames := .table (weekdays.map .text) rfl } := rfl
  have hb : Options.Built s _ := .replaced (.environment he ho) hr
  have hs : s.GivesTexts := {
    months := NameSetting.givesTexts_table Options.englishMonths rfl
    shortMonths := fun h => absurd h (by decide)
    weekdays := NameSetting.givesTexts_table weekdays rfl
    shortWeekdays := fun h => absurd h (by decide) }
  obtain ⟨-, -, -, -, h⟩ := names_in_force hb hs
  obtain ⟨-, t, u, ⟨ht, hu⟩, hn, hA, ha⟩ := h v _ (.number 2024) (.number 2) (.number 29) rfl
    ⟨rfl, rfl, rfl, by decide, by decide⟩
  obtain rfl : "jeudi".toList = t := Datum.text.inj (Except.ok.inj ht)
  obtain rfl : u = "je".toList := by rwa [if_pos (by decide)] at hu
  exact ⟨_, _, ho, hr, hb, hs, hn, hA, ha⟩

/-- An index that is one past the longest numbers is no month, but it is not refused. -/
theorem months_name_tooLong :
    let w : Whole := .number (Nat.pow 10 maxDigits : Nat)
    ¬w.toInt ≤ 12 ∧ Options.default.months.name (.whole w) = .error .tooLong ∧
      render (.text "%B".toList) (.datum (.record [("month".toList, .whole w)])) Options.default =
        .error .tooLong := by
  intro w
  have hl : w.isWritable = false := isShort_eq_false_iff.mpr (by omega)
  have hp : 10000000 ≤ Nat.pow 10 maxDigits := seven_digits_le (by decide)
  have hw : ¬w.toInt ≤ 12 := by
    change ¬((Nat.pow 10 maxDigits : Nat) : Int) ≤ 12
    omega
  have hn : Options.default.months.name (.whole w) = .error .tooLong := by
    rw [Options.months, Naming.name_whole, if_neg (fun h => hw h.2),
      Naming.raised_indexOutOfRange Options.monthLabel (by decide), hl]
    rfl
  -- The power must not be computed from here on.
  clear_value w
  refine ⟨hw, hn, render_section_error (d := .monthName) (s := ⟨none, [], some 'B'⟩) rfl rfl
    (by simp [IsDigits]) (by simp) ?_⟩
  exact congrArg (· >>= _) hn

end CalendarText
