import CalendarText.Proofs.Merging
import CalendarText.Proofs.Names
import CalendarText.Proofs.Causes

/-! Which settings make options. Every part has a shape of its own that its check accepts exactly,
and what a check does not accept it refuses, as long as the refusal can be written. The options of
accepted settings keep the settings with their lists as tuples, and they answer for all their
indices: what they refuse, a rule that was given for the names has refused. -/

namespace CalendarText

namespace NameSetting

variable {κ : Type} {s : NameSetting κ} {size : Int} {source : NameSource κ size}

/-- A table of so many names, or a rule. -/
def Fits (s : NameSetting κ) (size : Int) : Prop :=
  match s with
  | datum (.list names) | datum (.tuple names) => (names.length : Int) = size
  | datum _ => False
  | rule _ => True

/-- Whether every number in what is set is short enough to be written. -/
def isWritable : NameSetting κ → Bool
  | datum d => d.isWritable
  | rule _ => true

/-- A list of names is kept as a tuple. -/
def frozen : NameSetting κ → NameSetting κ
  | datum (.list names) => datum (.tuple names)
  | s => s

theorem setting_eq_tuple {names : List Datum} (h : source.setting = .datum (.tuple names)) :
    ∃ fits, source = .table names fits := by
  cases source with
  | rule name => simp [NameSource.setting] at h
  | table entries fits =>
    obtain rfl : entries = names := by simpa [NameSource.setting] using h
    exact ⟨fits, rfl⟩

theorem setting_ne {d : Datum} (hd : ∀ names, d ≠ .tuple names) : source.setting ≠ .datum d := by
  cases source with
  | rule name => simp [NameSource.setting]
  | table names fits =>
    rw [NameSource.setting, Ne, datum.injEq]
    exact (hd names).symm

theorem exists_setting_iff : (∃ source : NameSource κ size, source.setting = s.frozen) ↔
    s.Fits size := by
  cases s with
  | rule name => exact ⟨fun _ => trivial, fun _ => ⟨.rule name, rfl⟩⟩
  | datum d =>
    cases d with
    | list names | tuple names =>
      constructor
      · rintro ⟨source, h⟩
        exact (setting_eq_tuple h).1
      · exact fun fits => ⟨.table names fits, rfl⟩
    | _ => exact ⟨fun ⟨_, h⟩ => absurd h (setting_ne (by simp)), False.elim⟩

theorem table_eq_ok_iff {names : List Datum} {e : Failure} :
    ((if h : (names.length : Int) = size then .ok (.table names h) else .error e :
      Outcome (NameSource κ size)) = .ok source) ↔ source.setting = .datum (.tuple names) := by
  split
  · rw [Except.ok.injEq]
    constructor
    · rintro rfl
      rfl
    · intro h
      obtain ⟨_, rfl⟩ := setting_eq_tuple h
      rfl
  · rename_i fits
    exact ⟨fun h => absurd h (by simp), fun h => absurd (setting_eq_tuple h).1 fits⟩

theorem rule_eq_ok_iff {name : κ → Outcome Datum} :
    (Except.ok (NameSource.rule name) : Outcome (NameSource κ size)) = .ok source ↔
      source.setting = .rule name := by
  cases source <;> simp [NameSource.setting, eq_comm]

/-- A check gives the source that hands on what was set, with a list as a tuple. -/
theorem check_eq_ok_iff {label : Text} :
    s.check label size = .ok source ↔ source.setting = s.frozen := by
  cases s with
  | rule name => exact rule_eq_ok_iff
  | datum d =>
    cases d with
    | list names | tuple names => exact table_eq_ok_iff
    | _ => exact ⟨fun h => absurd h (by simp [check]), fun h => absurd h (setting_ne (by simp))⟩

theorem checkHalves_eq_ok_iff {s : NameSetting Meridiem} {source : NameSource Meridiem 2} :
    Options.checkHalves s = .ok source ↔ source.setting = s.frozen := by
  cases s with
  | rule name => exact rule_eq_ok_iff
  | datum d =>
    cases d with
    | list names | tuple names => exact table_eq_ok_iff
    | _ =>
      exact ⟨fun h => absurd h (by simp [Options.checkHalves]),
        fun h => absurd h (setting_ne (by simp))⟩

theorem isNull_iff : s.isNull = true ↔ s = .datum .null := by
  cases s with
  | rule name => simp [isNull]
  | datum d => cases d <;> simp [isNull, Datum.isNull]

theorem frozen_eq_null_iff : s.frozen = .datum .null ↔ s = .datum .null := by
  unfold frozen
  split <;> simp

theorem checkShort_eq_ok_iff {s : NameSetting Whole} {label : Text}
    {source? : Option (NameSource Whole size)} :
    Options.checkShort label size s = .ok source? ↔
      (source?.map (·.setting)).getD (.datum .null) = s.frozen := by
  unfold Options.checkShort
  split
  · rename_i hs
    obtain rfl := isNull_iff.mp hs
    cases source? with
    | none => simp [frozen]
    | some source => simpa [frozen] using setting_ne (by simp)
  · rename_i hs
    rw [isNull_iff, ← frozen_eq_null_iff] at hs
    cases source? with
    | none => simpa [bind_eq_ok_iff] using Ne.symm hs
    | some source => simp [bind_eq_ok_iff, check_eq_ok_iff]

end NameSetting

/-- Every part that is set has a shape that the options can use. -/
structure Settings.Usable (s : Settings) : Prop where
  preferredDateTime : ∀ d ∈ s.preferredDateTime, d.IsText
  preferredDate : ∀ d ∈ s.preferredDate, d.IsText
  preferredTime : ∀ d ∈ s.preferredTime, d.IsText
  halfNames : ∀ names ∈ s.halfNames, names.Fits 2
  monthNames : ∀ names ∈ s.monthNames, names.Fits 12
  shortMonthNames : ∀ names ∈ s.shortMonthNames, names = .datum .null ∨ names.Fits 12
  weekdayNames : ∀ names ∈ s.weekdayNames, names.Fits 7
  shortWeekdayNames : ∀ names ∈ s.shortWeekdayNames, names = .datum .null ∨ names.Fits 7
  shortLength : ∀ d ∈ s.shortLength, ∃ n : Nat, d = .ofInt n

/-- What is to be refused first is the length or the names of the halves, and a number in them is too
long for the refusal to show. -/
def Settings.DefiesRefusal (s : Settings) : Prop :=
  (∀ d ∈ s.preferredDateTime, d.IsText) ∧ (∀ d ∈ s.preferredDate, d.IsText) ∧
    (∀ d ∈ s.preferredTime, d.IsText) ∧
    ((∃ d ∈ s.shortLength, (¬∃ n : Nat, d = .ofInt n) ∧ d.isWritable = false) ∨
      (∀ d ∈ s.shortLength, ∃ n : Nat, d = .ofInt n) ∧
        ∃ names ∈ s.halfNames, ¬names.Fits 2 ∧ names.isWritable = false)

def Settings.frozen (s : Settings) : Settings :=
  { s with
    halfNames := s.halfNames.map (·.frozen)
    monthNames := s.monthNames.map (·.frozen)
    shortMonthNames := s.shortMonthNames.map (·.frozen)
    weekdayNames := s.weekdayNames.map (·.frozen)
    shortWeekdayNames := s.shortWeekdayNames.map (·.frozen) }

namespace Options

theorem checkTemplate_eq_ok_iff {p : Preferred} {d : Datum} {t : Text} :
    checkTemplate p d = .ok t ↔ d = .text t := by
  cases d <;> simp [checkTemplate]

theorem checkLength_eq_ok_iff {d : Datum} {n : Nat} : checkLength d = .ok n ↔ d = .ofInt n := by
  fun_cases checkLength d with
  | case1 m =>
    rw [Except.ok.injEq, Datum.ofInt, Datum.whole.injEq, Whole.number.injEq]
    exact Int.ofNat_inj.symm
  | case2 d hd =>
    refine ⟨fun h => absurd h (by simp), ?_⟩
    rintro rfl
    exact (hd n rfl).elim

theorem checkTemplate_accepts_iff {p : Preferred} {d : Datum} :
    (∃ t, checkTemplate p d = .ok t) ↔ d.IsText := by
  simp only [checkTemplate_eq_ok_iff]
  rfl

theorem checkLength_accepts_iff {d : Datum} :
    (∃ n, checkLength d = .ok n) ↔ ∃ n : Nat, d = .ofInt n := by
  simp only [checkLength_eq_ok_iff]

theorem check_accepts_iff {s : NameSetting Whole} {label : Text} {size : Int} :
    (∃ source, s.check label size = .ok source) ↔ s.Fits size := by
  simp only [NameSetting.check_eq_ok_iff, NameSetting.exists_setting_iff]

theorem checkHalves_accepts_iff {s : NameSetting Meridiem} :
    (∃ source, checkHalves s = .ok source) ↔ s.Fits 2 := by
  simp only [NameSetting.checkHalves_eq_ok_iff, NameSetting.exists_setting_iff]

theorem checkShort_accepts_iff {s : NameSetting Whole} {label : Text} {size : Int} :
    (∃ source?, checkShort label size s = .ok source?) ↔ s = .datum .null ∨ s.Fits size := by
  simp only [NameSetting.checkShort_eq_ok_iff, ← NameSetting.exists_setting_iff]
  rw [Option.exists, ← NameSetting.frozen_eq_null_iff]
  simp only [Option.map_none, Option.getD_none, Option.map_some, Option.getD_some, eq_comm]

variable {given : Settings} {o : Options}

/-- What holds of the default for a part holds of the part in force when it holds of what is set. -/
theorem in_force_iff {α : Type} {P : α → Prop} {own a : α} (ho : P own) (part : Option α) :
    P ((part.or (some own)).getD a) ↔ ∀ a ∈ part, P a := by
  cases part <;> simp [ho]

theorem template_in_force_iff (p : Preferred) (own : Text) (part : Option Datum) :
    (∃ t, checkTemplate p ((part.or (some (.text own))).getD .null) = .ok t) ↔
      ∀ d ∈ part, d.IsText := by
  rw [checkTemplate_accepts_iff]
  exact in_force_iff ⟨own, rfl⟩ part

theorem length_in_force_iff (own : Nat) (part : Option Datum) :
    (∃ n, checkLength ((part.or (some (.ofInt own))).getD .null) = .ok n) ↔
      ∀ d ∈ part, ∃ n : Nat, d = .ofInt n := by
  rw [checkLength_accepts_iff]
  exact in_force_iff (P := fun d => ∃ n : Nat, d = .ofInt n) ⟨own, rfl⟩ part

theorem halves_in_force_iff (own : NameSource Meridiem 2) (part : Option (NameSetting Meridiem)) :
    (∃ source, checkHalves ((part.or (some own.setting)).getD (.datum .null)) = .ok source) ↔
      ∀ names ∈ part, names.Fits 2 := by
  have hf : own.setting.Fits 2 := checkHalves_accepts_iff.mp ⟨own, checkHalves_setting own⟩
  rw [checkHalves_accepts_iff]
  exact in_force_iff (P := (·.Fits 2)) hf part

theorem names_in_force_iff (label : Text) {size : Int} (own : NameSource Whole size)
    (part : Option (NameSetting Whole)) :
    (∃ source, ((part.or (some own.setting)).getD (.datum .null)).check label size = .ok source) ↔
      ∀ names ∈ part, names.Fits size := by
  have hf : own.setting.Fits size := check_accepts_iff.mp ⟨own, own.check_setting label⟩
  rw [check_accepts_iff]
  exact in_force_iff (P := (·.Fits size)) hf part

theorem short_in_force_iff (label : Text) (size : Int) (part : Option (NameSetting Whole)) :
    (∃ source?, checkShort label size
      ((part.or (some (.datum .null))).getD (.datum .null)) = .ok source?) ↔
      ∀ names ∈ part, names = .datum .null ∨ names.Fits size := by
  rw [checkShort_accepts_iff]
  exact in_force_iff (P := fun s => s = .datum .null ∨ s.Fits size) (.inl rfl) part

theorem exists_checked_iff :
    (∃ o, Checked (given.onto default.settings) o) ↔ given.Usable := by
  constructor
  · rintro ⟨o, h⟩
    exact {
      preferredDateTime := (template_in_force_iff _ _ _).mp ⟨_, h.preferredDateTime⟩
      preferredDate := (template_in_force_iff _ _ _).mp ⟨_, h.preferredDate⟩
      preferredTime := (template_in_force_iff _ _ _).mp ⟨_, h.preferredTime⟩
      halfNames := (halves_in_force_iff _ _).mp ⟨_, h.halfNames⟩
      monthNames := (names_in_force_iff _ _ _).mp ⟨_, h.monthNames⟩
      shortMonthNames := (short_in_force_iff _ _ _).mp ⟨_, h.shortMonthNames⟩
      weekdayNames := (names_in_force_iff _ _ _).mp ⟨_, h.weekdayNames⟩
      shortWeekdayNames := (short_in_force_iff _ _ _).mp ⟨_, h.shortWeekdayNames⟩
      shortLength := (length_in_force_iff _ _).mp ⟨_, h.shortLength⟩ }
  · intro h
    obtain ⟨_, hdt⟩ := (template_in_force_iff .datetime default.preferredDateTime _).mpr
      h.preferredDateTime
    obtain ⟨_, hd⟩ := (template_in_force_iff .date default.preferredDate _).mpr h.preferredDate
    obtain ⟨_, ht⟩ := (template_in_force_iff .time default.preferredTime _).mpr h.preferredTime
    obtain ⟨_, hh⟩ := (halves_in_force_iff default.halfNames _).mpr h.halfNames
    obtain ⟨_, hm⟩ := (names_in_force_iff monthLabel default.monthNames _).mpr h.monthNames
    obtain ⟨_, hsm⟩ := (short_in_force_iff monthLabel 12 _).mpr h.shortMonthNames
    obtain ⟨_, hw⟩ := (names_in_force_iff weekdayLabel default.weekdayNames _).mpr h.weekdayNames
    obtain ⟨_, hsw⟩ := (short_in_force_iff weekdayLabel 7 _).mpr h.shortWeekdayNames
    obtain ⟨_, hl⟩ := (length_in_force_iff default.shortLength _).mpr h.shortLength
    exact ⟨⟨_, _, _, _, _, _, _, _, _, _⟩, hdt, hd, ht, hl, hh, hm, hw, hsm, hsw, rfl⟩

theorem some_in_force {own d x : Datum} {part : Option Datum}
    (h : (part.or (some own)).getD d = x) : some x = part.or (some own) := by
  subst h
  cases part <;> rfl

theorem some_frozen {κ : Type} {own s x : NameSetting κ} {part : Option (NameSetting κ)}
    (h : x = ((part.or (some own)).getD s).frozen) :
    some x = (part.or (some own)).map (·.frozen) := by
  subst h
  cases part <;> rfl

theorem Checked.settings_eq (h : Checked (given.onto default.settings) o) :
    o.settings = (given.onto default.settings).frozen := by
  unfold settings Settings.frozen
  rw [Settings.mk.injEq]
  exact ⟨some_in_force (checkTemplate_eq_ok_iff.mp h.preferredDateTime),
    some_in_force (checkTemplate_eq_ok_iff.mp h.preferredDate),
    some_in_force (checkTemplate_eq_ok_iff.mp h.preferredTime),
    some_frozen (NameSetting.checkHalves_eq_ok_iff.mp h.halfNames),
    some_frozen (NameSetting.check_eq_ok_iff.mp h.monthNames),
    some_frozen (NameSetting.checkShort_eq_ok_iff.mp h.shortMonthNames),
    some_frozen (NameSetting.check_eq_ok_iff.mp h.weekdayNames),
    some_frozen (NameSetting.checkShort_eq_ok_iff.mp h.shortWeekdayNames),
    some_in_force (checkLength_eq_ok_iff.mp h.shortLength), some_in_force h.passthrough⟩

@[simp] theorem checkTemplate_onlyRefuses (p : Preferred) (d : Datum) :
    OnlyRefuses (checkTemplate p d) := by
  cases d <;> simp [checkTemplate]

@[simp] theorem checkLength_onlyRefuses (d : Datum) : OnlyRefuses (checkLength d) := by
  fun_cases checkLength d <;> simp

@[simp] theorem checkHalves_onlyRefuses (s : NameSetting Meridiem) :
    OnlyRefuses (checkHalves s) := by
  unfold checkHalves
  repeat' split
  all_goals simp

@[simp] theorem check_onlyRefuses (s : NameSetting Whole) (label : Text) (size : Int) :
    OnlyRefuses (s.check label size) := by
  unfold NameSetting.check NameSetting.tableOf
  repeat' split
  all_goals simp

theorem ofSettings_onlyRefuses (given : Settings) : OnlyRefuses (ofSettings given) := by
  simp [ofSettings, checkShort]

@[simp] theorem checkTemplate_ne_tooLong {p : Preferred} {d : Datum} :
    checkTemplate p d ≠ .error .tooLong := by
  cases d <;> simp [checkTemplate]

@[simp] theorem check_ne_tooLong {s : NameSetting Whole} {label : Text} {size : Int} :
    s.check label size ≠ .error .tooLong := by
  unfold NameSetting.check NameSetting.tableOf
  repeat' split
  all_goals simp

@[simp] theorem checkShort_ne_tooLong {s : NameSetting Whole} {label : Text} {size : Int} :
    checkShort label size s ≠ .error .tooLong := by
  unfold checkShort
  split <;> simp [bind_eq_error_iff]

theorem checkLength_eq_tooLong_iff {d : Datum} :
    checkLength d = .error .tooLong ↔ (¬∃ n : Nat, d = .ofInt n) ∧ d.isWritable = false := by
  rw [← checkLength_accepts_iff]
  fun_cases checkLength d <;> simp [Refusal.isWritable]

theorem checkHalves_eq_tooLong_iff {s : NameSetting Meridiem} :
    checkHalves s = .error .tooLong ↔ ¬s.Fits 2 ∧ s.isWritable = false := by
  rw [← checkHalves_accepts_iff]
  unfold checkHalves
  repeat' split
  all_goals simp [Refusal.isWritable, NameSetting.isWritable]

theorem length_in_force_tooLong_iff (own : Nat) (part : Option Datum) :
    checkLength ((part.or (some (.ofInt own))).getD .null) = .error .tooLong ↔
      ∃ d ∈ part, (¬∃ n : Nat, d = .ofInt n) ∧ d.isWritable = false := by
  rw [checkLength_eq_tooLong_iff]
  cases part with
  | none => simpa using fun h => absurd rfl (h own)
  | some d => simp

theorem halves_in_force_tooLong_iff (own : NameSource Meridiem 2)
    (part : Option (NameSetting Meridiem)) :
    checkHalves ((part.or (some own.setting)).getD (.datum .null)) = .error .tooLong ↔
      ∃ names ∈ part, ¬names.Fits 2 ∧ names.isWritable = false := by
  have hf : own.setting.Fits 2 := checkHalves_accepts_iff.mp ⟨own, checkHalves_setting own⟩
  rw [checkHalves_eq_tooLong_iff]
  cases part with
  | none => simp [hf]
  | some names => simp

/-- Only a length or names of the halves that cannot be shown keep settings from being refused. -/
theorem ofSettings_eq_tooLong_iff {given : Settings} :
    ofSettings given = .error .tooLong ↔ given.DefiesRefusal := by
  simp only [ofSettings, bind_eq_error_iff, exists_and_right, checkTemplate_ne_tooLong,
    check_ne_tooLong, checkShort_ne_tooLong, pure_eq_ok, reduceCtorEq, exists_false, and_false,
    or_false, false_or]
  exact and_congr (template_in_force_iff .datetime default.preferredDateTime _) <|
    and_congr (template_in_force_iff .date default.preferredDate _) <|
    and_congr (template_in_force_iff .time default.preferredTime _) <|
    or_congr (length_in_force_tooLong_iff default.shortLength _) <|
    and_congr (length_in_force_iff default.shortLength _)
      (halves_in_force_tooLong_iff default.halfNames _)

end Options

/-- What is answered for a key by names from this source. The names refuse a key only where their
rule refuses it, and a table of texts answers by a text. -/
structure NameSource.Answers {κ : Type} {size : Int} (source : NameSource κ size) (key : κ)
    (answer : Outcome Datum) : Prop where
  refusal : ∀ reason, answer = .error (.refused reason) →
    ∃ rule, source = .rule rule ∧ rule key = .error (.refused reason)
  text : source.HasTexts → ∃ t, answer = .ok (.text t)

theorem Options.halfName_answers (o : Options) (m : Meridiem) :
    o.halfNames.Answers m (o.halfName m) where
  refusal reason h := by
    unfold halfName at h
    split at h
    · exact absurd h (by simp)
    · rename_i rule hr
      exact ⟨rule, hr, h⟩
  text h := halfName_text h m

namespace Naming

variable {size : Int} {w : Whole}

theorem source_answers (source : NameSource Whole size) (label : Datum) (h1 : 1 ≤ w.toInt)
    (hw : w.toInt ≤ size) :
    source.Answers w (Naming.name ⟨label, .ofInt size, source.plain⟩ (.whole w)) where
  refusal reason h := by
    rw [name_whole, if_pos ⟨h1, hw⟩] at h
    cases source with
    | rule rule => exact ⟨rule, rfl, h⟩
    | table names fits =>
      simp only [NameSource.plain, Names.entry] at h
      split at h <;> simp at h
  text h := by
    obtain ⟨_, hn, t, rfl⟩ := givesTexts_of_source h label w h1 hw
    exact ⟨t, hn⟩

theorem short_answers {n : Naming} {full : NameSource Whole size} (hs : n.size = .ofInt size)
    (h1 : 1 ≤ w.toInt) (hw : w.toInt ≤ size) (hn : full.Answers w (n.name (.whole w)))
    (short? : Option (NameSource Whole size)) (length : Nat) :
    (short?.getD full).Answers w ((n.short short? length).name (.whole w)) := by
  cases short? with
  | some source =>
    rw [Naming.short, hs]
    exact source_answers source n.label h1 hw
  | none =>
    rw [Naming.short, Naming.shortened, hs, name_rule h1 hw]
    constructor
    -- Cutting refuses nothing itself, and what is cut from a text is a text.
    · intro reason h
      rcases bind_eq_error_iff.mp h with h | ⟨d, -, h⟩
      · exact hn.refusal reason h
      · have hf : Failure.refused reason = .wrongKind := d.firstPart_failsOnly _ _ h
        exact absurd hf (by simp)
    · intro h
      obtain ⟨t, ht⟩ := hn.text h
      rw [ht]
      exact ⟨t.take length, rfl⟩

end Naming

/-- Settings make options exactly when all that is set is usable, and others are refused, except that
no refusal can show a number that is too long. The options hold what was set, or else the default,
with lists of names as tuples. For both halves of the day, all months and all weekdays, they refuse no
name themselves, and they give a text where the names in use are a table of texts. -/
theorem settings_accepted (given : Settings) :
    ((∃ o, Options.ofKeywords ⟨given, []⟩ = .ok o) ↔ given.Usable) ∧
    (∀ e, Options.ofKeywords ⟨given, []⟩ = .error e →
      (∃ reason, e = .refused reason) ∨ e = .tooLong) ∧
    (Options.ofKeywords ⟨given, []⟩ = .error .tooLong ↔ given.DefiesRefusal) ∧
    ∀ o, Options.ofKeywords ⟨given, []⟩ = .ok o →
      o.settings = (given.onto Options.default.settings).frozen ∧
      (∀ m, o.halfNames.Answers m (o.halfName m)) ∧
      (∀ w : Whole, 1 ≤ w.toInt → w.toInt ≤ 12 →
        o.monthNames.Answers w (o.months.name (.whole w)) ∧
        (o.shortMonthNames.getD o.monthNames).Answers w (o.shortMonths.name (.whole w))) ∧
      ∀ w : Whole, 1 ≤ w.toInt → w.toInt ≤ 7 →
        o.weekdayNames.Answers w (o.weekdays.name (.whole w)) ∧
        (o.shortWeekdayNames.getD o.weekdayNames).Answers w (o.shortWeekdays.name (.whole w)) := by
  have hk : Options.ofKeywords ⟨given, []⟩ = Options.ofSettings given := rfl
  rw [hk]
  refine ⟨?_, Options.ofSettings_onlyRefuses given, Options.ofSettings_eq_tooLong_iff,
    fun o ho => ⟨?_, o.halfName_answers, ?_, ?_⟩⟩
  · rw [← Options.exists_checked_iff]
    exact exists_congr fun o => ⟨Options.checked_of_ofSettings, Options.Checked.ofSettings_eq⟩
  · exact (Options.checked_of_ofSettings ho).settings_eq
  · intro w h1 hw
    have hm : o.monthNames.Answers w (o.months.name (.whole w)) :=
      Naming.source_answers o.monthNames _ h1 hw
    rw [Options.shortMonths_eq]
    exact ⟨hm, Naming.short_answers rfl h1 hw hm _ _⟩
  · intro w h1 hw
    have hd : o.weekdayNames.Answers w (o.weekdays.name (.whole w)) :=
      Naming.source_answers o.weekdayNames _ h1 hw
    rw [Options.shortWeekdays_eq]
    exact ⟨hd, Naming.short_answers rfl h1 hw hd _ _⟩

/-- Null stands for short names that are cut from the full ones, and is no source of full names. -/
theorem settings_accepted_null :
    let halves : List Datum := [.text "AM".toList, .text "PM".toList]
    let given : Settings := { Settings.empty with
      halfNames := some (.datum (.list halves))
      shortMonthNames := some (.datum .null)
      passthrough := some (.list []) }
    (∃ o, Options.ofKeywords ⟨given, []⟩ = .ok o ∧
      o.settings.halfNames = some (.datum (.tuple halves)) ∧
      ∀ m, o.halfNames.Answers m (o.halfName m)) ∧
    ∃ reason, Options.ofKeywords ⟨{ given with monthNames := some (.datum .null) }, []⟩ =
      .error (.refused reason) := by
  intro halves given
  have hu : given.Usable := by
    constructor <;> simp [given, Settings.empty, NameSetting.Fits, halves]
  obtain ⟨hi, -, -, ho⟩ := settings_accepted given
  obtain ⟨o, h⟩ := hi.mpr hu
  obtain ⟨hs, ha, -⟩ := ho o h
  refine ⟨⟨o, h, ?_, ha⟩, ?_⟩
  · rw [hs]
    rfl
  · cases he : Options.ofKeywords ⟨{ given with monthNames := some (.datum .null) }, []⟩ with
    | ok o =>
      have hn := (settings_accepted _).1.mp ⟨o, he⟩
      exact (hn.monthNames _ rfl).elim
    | error e =>
      obtain ⟨-, hf, hl, -⟩ := settings_accepted { given with monthNames := some (.datum .null) }
      obtain ⟨reason, rfl⟩ | rfl := hf e he
      · exact ⟨reason, rfl⟩
      · have hd := hl.mp he
        simp [Settings.DefiesRefusal, given, halves, Settings.empty, NameSetting.Fits] at hd

/-- A negative length is not usable, but one with too many digits is not refused. -/
theorem settings_length_tooLong :
    let given : Settings :=
      { Settings.empty with shortLength := some (.ofInt (-(Nat.pow 10 maxDigits : Nat))) }
    ¬given.Usable ∧ Options.ofKeywords ⟨given, []⟩ = .error .tooLong := by
  have hl : isShort (-(Nat.pow 10 maxDigits : Nat)) = false := isShort_eq_false_iff.mpr (by omega)
  have hp : 10000000 ≤ Nat.pow 10 maxDigits := seven_digits_le (by decide)
  have hn : (-(Nat.pow 10 maxDigits : Nat) : Int) < 0 := by omega
  generalize (-(Nat.pow 10 maxDigits : Nat) : Int) = n at hl hn
  intro given
  refine ⟨fun h => ?_, ?_⟩
  · obtain ⟨k, hk⟩ := h.shortLength _ rfl
    obtain rfl := Whole.number.inj (Datum.whole.inj hk)
    omega
  · have hc : Options.checkLength (.ofInt n) = .error .tooLong := by
      cases n with
      | ofNat k => exact absurd hn (Int.not_lt.mpr (Int.natCast_nonneg k))
      | negSucc k => exact congrArg Except.error (Failure.raised_of_not hl)
    change (Options.checkLength (.ofInt n) >>= _) = _
    rw [hc]
    rfl

end CalendarText
