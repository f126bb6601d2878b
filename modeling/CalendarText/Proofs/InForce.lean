import CalendarText.Options.Environment
import CalendarText.Proofs.Outcomes

/-! The settings in force. Options come from keywords, from an environment, or from other options under
changes. Each part of them is what was set for it last, since options hand their parts on as
settings that are checked to the same parts again. -/

namespace CalendarText

theorem NameSource.check_setting {size : Int} (source : NameSource Whole size) (label : Text) :
    source.setting.check label size = .ok source := by
  cases source with
  | table names fits => exact dif_pos fits
  | rule name => rfl

theorem NameSource.setting_isNull {κ : Type} {size : Int} (source : NameSource κ size) :
    source.setting.isNull = false := by
  cases source <;> rfl

namespace Options

/-- Options made by any sequence of constructions and changes, with the settings in force: what was set
last for each part, or else its default. -/
inductive Built : Settings → Options → Prop
  | keywords {k : Keywords} {o : Options} (h : ofKeywords k = .ok o) :
      Built (k.settings.onto default.settings) o
  | environment {e : Environment} {k : Keywords} {base : Settings} {o : Options}
      (he : e.settings = .ok base) (h : ofEnvironment e k = .ok o) :
      Built ((k.settings.onto base).onto default.settings) o
  | replaced {s : Settings} {k : Keywords} {o o' : Options} (hs : Built s o)
      (h : o.replaceKeywords k = .ok o') : Built (k.settings.onto s) o'

/-- Each part of the options is what its setting is checked to. -/
structure Checked (s : Settings) (o : Options) : Prop where
  preferredDateTime :
    checkTemplate .datetime (s.preferredDateTime.getD .null) = .ok o.preferredDateTime
  preferredDate : checkTemplate .date (s.preferredDate.getD .null) = .ok o.preferredDate
  preferredTime : checkTemplate .time (s.preferredTime.getD .null) = .ok o.preferredTime
  shortLength : checkLength (s.shortLength.getD .null) = .ok o.shortLength
  halfNames : checkHalves (s.halfNames.getD (.datum .null)) = .ok o.halfNames
  monthNames : (s.monthNames.getD (.datum .null)).check monthLabel 12 = .ok o.monthNames
  weekdayNames : (s.weekdayNames.getD (.datum .null)).check weekdayLabel 7 = .ok o.weekdayNames
  shortMonthNames :
    checkShort monthLabel 12 (s.shortMonthNames.getD (.datum .null)) = .ok o.shortMonthNames
  shortWeekdayNames :
    checkShort weekdayLabel 7 (s.shortWeekdayNames.getD (.datum .null)) = .ok o.shortWeekdayNames
  passthrough : s.passthrough.getD .null = o.passthrough

variable {s : Settings} {o o' : Options}

theorem checked_of_ofSettings (h : ofSettings s = .ok o) : Checked (s.onto default.settings) o := by
  simp only [ofSettings, bind_eq_ok_iff, pure_eq_ok, Except.ok.injEq] at h
  obtain ⟨_, hdt, _, hd, _, ht, _, hl, _, hh, _, hm, _, hw, _, hsm, _, hsw, rfl⟩ := h
  exact ⟨hdt, hd, ht, hl, hh, hm, hw, hsm, hsw, rfl⟩

theorem checkHalves_setting (source : NameSource Meridiem 2) :
    checkHalves source.setting = .ok source := by
  cases source with
  | table names fits => exact dif_pos fits
  | rule name => rfl

theorem checkShort_setting {size : Int} (source? : Option (NameSource Whole size)) (label : Text) :
    checkShort label size ((source?.map (·.setting)).getD (.datum .null)) = .ok source? := by
  cases source? with
  | none => rfl
  | some source =>
    simp [checkShort, NameSource.setting_isNull, NameSource.check_setting]

/-- The parts of options are settings that are checked to the same parts. -/
theorem checked_settings (o : Options) : Checked o.settings o where
  preferredDateTime := rfl
  preferredDate := rfl
  preferredTime := rfl
  shortLength := rfl
  halfNames := checkHalves_setting _
  monthNames := o.monthNames.check_setting _
  weekdayNames := o.weekdayNames.check_setting _
  shortMonthNames := checkShort_setting _ _
  shortWeekdayNames := checkShort_setting _ _
  passthrough := rfl

/-- Each part of the one settings has the same outcome as that of the other when it is checked. -/
structure SameChecks (s s' : Settings) : Prop where
  preferredDateTime : checkTemplate .datetime (s.preferredDateTime.getD .null) =
    checkTemplate .datetime (s'.preferredDateTime.getD .null)
  preferredDate : checkTemplate .date (s.preferredDate.getD .null) =
    checkTemplate .date (s'.preferredDate.getD .null)
  preferredTime : checkTemplate .time (s.preferredTime.getD .null) =
    checkTemplate .time (s'.preferredTime.getD .null)
  shortLength : checkLength (s.shortLength.getD .null) = checkLength (s'.shortLength.getD .null)
  halfNames : checkHalves (s.halfNames.getD (.datum .null)) =
    checkHalves (s'.halfNames.getD (.datum .null))
  monthNames : (s.monthNames.getD (.datum .null)).check monthLabel 12 =
    (s'.monthNames.getD (.datum .null)).check monthLabel 12
  weekdayNames : (s.weekdayNames.getD (.datum .null)).check weekdayLabel 7 =
    (s'.weekdayNames.getD (.datum .null)).check weekdayLabel 7
  shortMonthNames : checkShort monthLabel 12 (s.shortMonthNames.getD (.datum .null)) =
    checkShort monthLabel 12 (s'.shortMonthNames.getD (.datum .null))
  shortWeekdayNames : checkShort weekdayLabel 7 (s.shortWeekdayNames.getD (.datum .null)) =
    checkShort weekdayLabel 7 (s'.shortWeekdayNames.getD (.datum .null))
  passthrough : s.passthrough.getD .null = s'.passthrough.getD .null

/-- Two settings that are checked to the same part can stand for each other below a change. -/
theorem check_under {α β : Type} {check : α → β} {null : α} {b : β} {own below : Option α}
    (hb : check (below.getD null) = b) (ho : check (own.getD null) = b) (change : Option α) :
    check ((change.or below).getD null) = check ((change.or own).getD null) := by
  cases change with
  | some a => rfl
  | none => rw [Option.none_or, Option.none_or, hb, ho]

theorem Checked.under {own : Settings} (hb : Checked s o) (ho : Checked own o)
    (changes : Settings) : SameChecks (changes.onto s) (changes.onto own) where
  preferredDateTime := check_under hb.preferredDateTime ho.preferredDateTime _
  preferredDate := check_under hb.preferredDate ho.preferredDate _
  preferredTime := check_under hb.preferredTime ho.preferredTime _
  shortLength := check_under hb.shortLength ho.shortLength _
  halfNames := check_under hb.halfNames ho.halfNames _
  monthNames := check_under hb.monthNames ho.monthNames _
  weekdayNames := check_under hb.weekdayNames ho.weekdayNames _
  shortMonthNames := check_under hb.shortMonthNames ho.shortMonthNames _
  shortWeekdayNames := check_under hb.shortWeekdayNames ho.shortWeekdayNames _
  passthrough := @check_under _ _ id _ _ _ _ hb.passthrough ho.passthrough _

theorem SameChecks.checked {s' : Settings} (h : SameChecks s s') (hc : Checked s' o) :
    Checked s o where
  preferredDateTime := h.preferredDateTime.trans hc.preferredDateTime
  preferredDate := h.preferredDate.trans hc.preferredDate
  preferredTime := h.preferredTime.trans hc.preferredTime
  shortLength := h.shortLength.trans hc.shortLength
  halfNames := h.halfNames.trans hc.halfNames
  monthNames := h.monthNames.trans hc.monthNames
  weekdayNames := h.weekdayNames.trans hc.weekdayNames
  shortMonthNames := h.shortMonthNames.trans hc.shortMonthNames
  shortWeekdayNames := h.shortWeekdayNames.trans hc.shortWeekdayNames
  passthrough := h.passthrough.trans hc.passthrough

/-- Options set all of their parts, so nothing is left to what is laid under them. -/
theorem settings_onto (o : Options) (s : Settings) : o.settings.onto s = o.settings := rfl

theorem checked_of_ofKeywords {k : Keywords} (h : ofKeywords k = .ok o) :
    Checked (k.settings.onto default.settings) o := by
  unfold ofKeywords at h
  split at h
  · exact checked_of_ofSettings h
  · exact absurd h (by simp)

theorem Checked.replaced {k : Keywords} (hs : Checked s o) (h : o.replaceKeywords k = .ok o') :
    Checked (k.settings.onto s) o' := by
  unfold replaceKeywords at h
  split at h
  · exact absurd h (by simp)
  · split at h
    · have hc := checked_of_ofSettings h
      rw [Settings.onto_assoc, settings_onto] at hc
      exact (hs.under (checked_settings o) k.settings).checked hc
    · exact absurd h (by simp)

/-- However options have come about, each part is what the setting in force is checked to. -/
theorem Built.checked (h : Built s o) : Checked s o := by
  induction h with
  | keywords h => exact checked_of_ofKeywords h
  | environment he h =>
    rw [ofEnvironment, he, ok_bind] at h
    exact checked_of_ofKeywords h
  | replaced _ h ih => exact ih.replaced h

end Options

end CalendarText
