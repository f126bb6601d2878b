import CalendarText.Proofs.InForce
import CalendarText.Rendering

/-! Changes to options merge. Changing options twice is changing them once by both changes, the later
one winning; changes at the call are changes before it; and an environment is one more layer of
settings, under the keywords and above the defaults. -/

namespace CalendarText

namespace Options

variable {s s' a : Settings} {o o' : Options}

theorem SameChecks.ofSettings_eq
    (h : SameChecks (s.onto default.settings) (s'.onto default.settings)) :
    ofSettings s = ofSettings s' := by
  simp only [ofSettings, h.preferredDateTime, h.preferredDate, h.preferredTime, h.shortLength,
    h.halfNames, h.monthNames, h.weekdayNames, h.shortMonthNames, h.shortWeekdayNames,
    h.passthrough]

theorem Checked.ofSettings_eq (h : Checked (s.onto default.settings) o) : ofSettings s = .ok o := by
  simp only [ofSettings, h.preferredDateTime, h.preferredDate, h.preferredTime, h.shortLength,
    h.halfNames, h.monthNames, h.weekdayNames, h.shortMonthNames, h.shortWeekdayNames,
    h.passthrough, ok_bind, pure_eq_ok]

/-- Settings and the options made of them can stand for each other below a change. -/
theorem ofSettings_onto (h : ofSettings s = .ok o) (a : Settings) :
    ofSettings (a.onto o.settings) = ofSettings (a.onto s) := by
  have hs : Checked (s.onto default.settings) o := checked_of_ofSettings h
  have hc := (checked_settings o).under hs a
  apply SameChecks.ofSettings_eq
  rwa [Settings.onto_assoc, Settings.onto_assoc, settings_onto]

theorem replace_empty (o : Options) : o.replace .empty = .ok o := by
  apply Checked.ofSettings_eq
  rw [Settings.empty_onto, settings_onto]
  exact checked_settings o

/-- A change of changed options is one change by both, of which the later one wins. -/
theorem replace_replace (h : o.replace a = .ok o') (b : Settings) :
    o'.replace b = o.replace (b.onto a) := by
  rw [replace, replace, ofSettings_onto h, Settings.onto_assoc]

theorem replaceKeywords_eq (o : Options) (a : Settings) :
    o.replaceKeywords ⟨a, []⟩ = o.replace a := rfl

end Options

theorem format_unchanged (v : Value) (t : Datum) (o : Options) :
    format v t (some o) ⟨.empty, []⟩ = render t v o := by
  rw [format, callOptions, Options.replaceKeywords_eq, Options.replace_empty, ok_bind]

/-- Changes at the call are changes of the options before it. -/
theorem format_callOptions (v : Value) (t : Datum) (options : Option Options) (k : Keywords) :
    format v t options k = (do
      format v t (some (← callOptions options k)) ⟨.empty, []⟩) := by
  simp only [format_unchanged]
  rfl

namespace Environment

/-- A variable that is there. It may be empty, but null stands for no variable. -/
def present? (e : Environment) (name : String) : Option Datum :=
  (e.lookup name.toList).filter fun d => !d.isNull

/-- The names of the variables that are read. -/
def variableNames : List String :=
  ["NIMBLE_STRFTIME_PREFERRED_DATETIME", "NIMBLE_STRFTIME_PREFERRED_DATE",
    "NIMBLE_STRFTIME_PREFERRED_TIME", "NIMBLE_STRFTIME_ABBREVIATION_SIZE"]

/-- What an environment sets, given the length that it spells, if any. -/
def given (e : Environment) (length : Option Int) : Settings :=
  { Settings.empty with
    preferredDateTime := e.present? "NIMBLE_STRFTIME_PREFERRED_DATETIME"
    preferredDate := e.present? "NIMBLE_STRFTIME_PREFERRED_DATE"
    preferredTime := e.present? "NIMBLE_STRFTIME_PREFERRED_TIME"
    shortLength := length.map .ofInt }

theorem value?_eq_present? (e : Environment) (name : String) :
    e.value? name.toList = e.present? name := by
  unfold value? present?
  cases e.lookup name.toList with
  | none => rfl
  | some d => cases d <;> rfl

theorem templateVariable_eq (p : Preferred) : templateVariable p = match p with
    | .datetime => "NIMBLE_STRFTIME_PREFERRED_DATETIME".toList
    | .date => "NIMBLE_STRFTIME_PREFERRED_DATE".toList
    | .time => "NIMBLE_STRFTIME_PREFERRED_TIME".toList := by
  cases p <;> decide +kernel

theorem lengthVariable_eq : lengthVariable = "NIMBLE_STRFTIME_ABBREVIATION_SIZE".toList := by
  decide +kernel

/-- The settings of an environment: the length is read first, and the templates are taken as they are. -/
theorem settings_eq (e : Environment) :
    e.settings = (do
      let length ← match e.present? "NIMBLE_STRFTIME_ABBREVIATION_SIZE" with
        | none => pure none
        | some d => some <$> readLength d
      return e.given length) := by
  simp only [settings, templateVariable_eq, lengthVariable_eq, value?_eq_present?]
  cases e.present? "NIMBLE_STRFTIME_ABBREVIATION_SIZE" with
  | none => rfl
  | some d =>
    dsimp only
    cases readLength d <;> rfl

theorem settings_congr {e e' : Environment}
    (h : ∀ name ∈ variableNames, e.present? name = e'.present? name) :
    e.settings = e'.settings := by
  have hg : e.given = e'.given := by
    funext length
    rw [given, given, h "NIMBLE_STRFTIME_PREFERRED_DATETIME" (by simp [variableNames]),
      h "NIMBLE_STRFTIME_PREFERRED_DATE" (by simp [variableNames]),
      h "NIMBLE_STRFTIME_PREFERRED_TIME" (by simp [variableNames])]
  rw [settings_eq, settings_eq, h _ (by simp [variableNames]), hg]

end Environment

/-- Changes to options merge, however they are made. Changing options is making options of their parts
under the change; a second change makes one with the first, the later one winning, and no change at
all makes the same options; a change at the call is a change before it. An environment whose length
variable spells no integer is refused even if the length is set by keyword; any other one is a layer
of settings under the keywords, whatever other variables there are. -/
theorem options_merge (o : Options) (a b : Settings) :
    o.replaceKeywords ⟨a, []⟩ = Options.ofKeywords ⟨a.onto o.settings, []⟩ ∧
    o.replaceKeywords ⟨.empty, []⟩ = .ok o ∧
    (∀ o', o.replaceKeywords ⟨a, []⟩ = .ok o' →
      Options.Checked (a.onto o.settings) o' ∧
      o'.replaceKeywords ⟨b, []⟩ = o.replaceKeywords ⟨b.onto a, []⟩) ∧
    (∀ v t,
      format v t (some o) ⟨a, []⟩ = (do
        format v t (some (← o.replaceKeywords ⟨a, []⟩)) ⟨.empty, []⟩) ∧
      format v t none ⟨a, []⟩ = (do
        format v t (some (← Options.ofKeywords ⟨a, []⟩)) ⟨.empty, []⟩)) ∧
    ∀ e : Environment,
      (e.present? "NIMBLE_STRFTIME_ABBREVIATION_SIZE" = none →
        Options.ofEnvironment e ⟨a, []⟩ = Options.ofKeywords ⟨a.onto (e.given none), []⟩) ∧
      (∀ t, e.present? "NIMBLE_STRFTIME_ABBREVIATION_SIZE" = some (.text t) →
        Options.ofEnvironment e ⟨a, []⟩ =
          match readInteger? t with
          | some n => Options.ofKeywords ⟨a.onto (e.given (some n)), []⟩
          | none => .error (.refused
              (.notNumeral "NIMBLE_STRFTIME_ABBREVIATION_SIZE".toList (.text t)))) ∧
      ∀ e' : Environment,
        (∀ name ∈ Environment.variableNames, e.present? name = e'.present? name) →
        Options.ofEnvironment e ⟨a, []⟩ = Options.ofEnvironment e' ⟨a, []⟩ := by
  refine ⟨rfl, o.replace_empty, fun o' h => ⟨?_, Options.replace_replace h b⟩, fun v t => ⟨?_, ?_⟩,
    fun e => ⟨fun h => ?_, fun t h => ?_, fun e' h => ?_⟩⟩
  · have hc : Options.Checked ((a.onto o.settings).onto Options.default.settings) o' :=
      Options.checked_of_ofSettings h
    rwa [Settings.onto_assoc, Options.settings_onto] at hc
  · exact format_callOptions v t (some o) ⟨a, []⟩
  · exact format_callOptions v t none ⟨a, []⟩
  · rw [Options.ofEnvironment, Environment.settings_eq, h]
    rfl
  · rw [Options.ofEnvironment, Environment.settings_eq, h]
    simp only [Environment.readLength]
    cases readInteger? t with
    | some n => rfl
    | none => rw [Environment.lengthVariable_eq]; rfl
  · rw [Options.ofEnvironment, Environment.settings_congr h]
    rfl

/-- A list of weekday names and a length are changed one after the other and at once. The empty template
of an environment counts, and its length is read even where another one is set. -/
theorem options_merge_weekdays :
    let names : List Datum :=
      ["lundi", "mardi", "mercredi", "jeudi", "vendredi", "samedi", "dimanche"].map fun n =>
        .text n.toList
    let a : Settings := { Settings.empty with weekdayNames := some (.datum (.list names)) }
    let b : Settings := { Settings.empty with shortLength := some (.ofInt 2) }
    let e (length : String) : Environment :=
      [("NIMBLE_STRFTIME_ABBREVIATION_SIZE".toList, .text length.toList),
        ("NIMBLE_STRFTIME_PREFERRED_DATE".toList, .text []), ("HOME".toList, .text ['/'])]
    (∃ o', Options.default.replaceKeywords ⟨a, []⟩ = .ok o' ∧
      o'.weekdayNames.names? = some names ∧
      o'.replaceKeywords ⟨b, []⟩ = Options.default.replaceKeywords ⟨b.onto a, []⟩) ∧
    Options.ofEnvironment (e " 1_0 ") ⟨b, []⟩ = .ok { Options.default with
      preferredDate := []
      shortLength := 2 } ∧
    Options.ofEnvironment (e "ten") ⟨b, []⟩ = .error (.refused
      (.notNumeral "NIMBLE_STRFTIME_ABBREVIATION_SIZE".toList (.text "ten".toList))) := by
  intro names a b e
  obtain ⟨-, -, hab, -, -⟩ := options_merge Options.default a b
  have ha : Options.default.replaceKeywords ⟨a, []⟩ =
      .ok { Options.default with weekdayNames := .table names rfl } := rfl
  obtain ⟨-, -, -, -, he⟩ := options_merge Options.default b a
  have ten : readInteger? " 1_0 ".toList = some 10 := by decide +kernel
  have none : readInteger? "ten".toList = none := by decide +kernel
  refine ⟨⟨_, ha, rfl, (hab _ ha).2⟩, ?_, ?_⟩
  · rw [(he (e " 1_0 ")).2.1 " 1_0 ".toList rfl, ten]
    rfl
  · rw [(he (e "ten")).2.1 "ten".toList rfl, none]

end CalendarText
