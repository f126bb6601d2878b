import CalendarText.Options
import CalendarText.Proofs.Outcomes

/-! Options whose names are tables of texts. Every month and every weekday then has a name that is a
text, long and short, and so has each half of the day. -/

namespace CalendarText

/-- The source is a table, and all of its names are texts. -/
def NameSource.HasTexts {κ : Type} {size : Int} (source : NameSource κ size) : Prop :=
  ∃ names : List Text, source.names? = some (names.map .text)

structure Options.HasTexts (o : Options) : Prop where
  halves : o.halfNames.HasTexts
  months : o.monthNames.HasTexts
  shortMonths : ∀ source ∈ o.shortMonthNames, source.HasTexts
  weekdays : o.weekdayNames.HasTexts
  shortWeekdays : ∀ source ∈ o.shortWeekdayNames, source.HasTexts

/-- The naming has a text for every index from one to the size. -/
def Naming.GivesTexts (n : Naming) (size : Int) : Prop :=
  ∀ w : Whole, 1 ≤ w.toInt → w.toInt ≤ size →
    ∃ d, n.name (.whole w) = .ok d ∧ d.IsText

/-- What a table holds or a rule gives for an index. -/
def Names.entry (names : Names Whole) (w : Whole) : Outcome Datum :=
  match names with
  | .table names =>
    match names[(w.toInt - 1).toNat]? with
    | some name => .ok name
    | none => .error .noEntry
  | .rule name => name w

theorem Names.entry_texts {names : List Text} {w : Whole} (h1 : 1 ≤ w.toInt)
    (hw : w.toInt ≤ names.length) :
    ∃ t, Names.entry (.table (names.map .text)) w = .ok (.text t) := by
  have hi : (w.toInt - 1).toNat < names.length := by omega
  refine ⟨names[(w.toInt - 1).toNat], ?_⟩
  simp only [entry, List.getElem?_map, List.getElem?_eq_getElem hi, Option.map_some]

/-- A naming answers for the indices from one to its size and refuses all others. -/
theorem Naming.name_whole (label : Datum) (size : Int) (names : Names Whole) (w : Whole) :
    Naming.name ⟨label, .ofInt size, names⟩ (.whole w) =
      if 1 ≤ w.toInt ∧ w.toInt ≤ size then names.entry w
      else .error (Failure.refused (.indexOutOfRange label (.ofInt size) (.whole w))).raised := by
  by_cases h1 : 1 ≤ w.toInt
  · simp only [name, h1, if_true, Datum.ofInt, Datum.toNumber_whole, ok_bind, Whole.toInt_number,
      Number.le_whole, decide_eq_true_eq, pure_eq_ok, true_and]
    split <;> cases names <;> rfl
  · simp only [name, h1, if_false, pure_eq_ok, ok_bind, Bool.false_eq_true, false_and]

/-- An index outside the sizes that can be written is refused by its text, if it has one. -/
theorem Naming.raised_indexOutOfRange (label : Text) {size : Int} (hs : isShort size = true)
    (w : Whole) :
    (Failure.refused (.indexOutOfRange (.text label) (.ofInt size) (.whole w))).raised =
      if w.isWritable then .refused (.indexOutOfRange (.text label) (.ofInt size) (.whole w))
      else .tooLong := by
  simp [Failure.raised, Failure.isWritable, Refusal.isWritable, hs]

/-- The short form of a naming: by a source of its own, or else cut to a length. -/
def Naming.short {size : Int} (n : Naming) (short? : Option (NameSource Whole size))
    (length : Nat) : Naming :=
  match short? with
  | some source => ⟨n.label, n.size, source.plain⟩
  | none => n.shortened (.ofInt length)

theorem Options.shortMonths_eq (o : Options) :
    o.shortMonths = o.months.short o.shortMonthNames o.shortLength := by
  unfold shortMonths Naming.short
  cases o.shortMonthNames <;> rfl

theorem Options.shortWeekdays_eq (o : Options) :
    o.shortWeekdays = o.weekdays.short o.shortWeekdayNames o.shortLength := by
  unfold shortWeekdays Naming.short
  cases o.shortWeekdayNames <;> rfl

theorem Naming.name_rule {label : Datum} {size : Int} {rule : Whole → Outcome Datum} {w : Whole}
    (h1 : 1 ≤ w.toInt) (hw : w.toInt ≤ size) :
    Naming.name ⟨label, .ofInt size, .rule rule⟩ (.whole w) = rule w := by
  rw [name_whole, if_pos ⟨h1, hw⟩, Names.entry]

theorem Naming.givesTexts_of_source {size : Int} {source : NameSource Whole size}
    (h : source.HasTexts) (label : Datum) :
    GivesTexts ⟨label, .ofInt size, source.plain⟩ size := by
  intro w h1 hw
  obtain ⟨names, hn⟩ := h
  cases source with
  | rule name => simp [NameSource.names?] at hn
  | table entries fits =>
    obtain rfl : entries = names.map .text := Option.some.inj hn
    rw [List.length_map] at fits
    obtain ⟨t, ht⟩ := Names.entry_texts h1 (fits.symm ▸ hw)
    refine ⟨.text t, ?_, t, rfl⟩
    rw [name_whole, if_pos ⟨h1, hw⟩]
    exact ht

theorem Naming.GivesTexts.shortened {n : Naming} {size : Int} (h : n.GivesTexts size)
    (hs : n.size = .ofInt size) (length : Nat) :
    (n.shortened (.ofInt length)).GivesTexts size := by
  intro w h1 hw
  obtain ⟨_, hn, t, rfl⟩ := h w h1 hw
  refine ⟨.text (t.take length), ?_, _, rfl⟩
  rw [Naming.shortened, hs, name_rule h1 hw, hn]
  rfl

theorem Naming.GivesTexts.short {n : Naming} {size : Int} (h : n.GivesTexts size)
    (hs : n.size = .ofInt size) {short? : Option (NameSource Whole size)}
    (h' : ∀ source ∈ short?, source.HasTexts) (length : Nat) :
    (n.short short? length).GivesTexts size := by
  cases short? with
  | some source =>
    rw [Naming.short, hs]
    exact givesTexts_of_source (h' source rfl) n.label
  | none => exact h.shortened hs length

namespace Options

variable {o : Options}

theorem HasTexts.months_give (ho : o.HasTexts) : o.months.GivesTexts 12 :=
  Naming.givesTexts_of_source ho.months _

theorem HasTexts.weekdays_give (ho : o.HasTexts) : o.weekdays.GivesTexts 7 :=
  Naming.givesTexts_of_source ho.weekdays _

theorem HasTexts.shortMonths_give (ho : o.HasTexts) : o.shortMonths.GivesTexts 12 := by
  rw [shortMonths_eq]
  exact ho.months_give.short rfl ho.shortMonths _

theorem HasTexts.shortWeekdays_give (ho : o.HasTexts) : o.shortWeekdays.GivesTexts 7 := by
  rw [shortWeekdays_eq]
  exact ho.weekdays_give.short rfl ho.shortWeekdays _

theorem halfName_text (h : o.halfNames.HasTexts) (m : Meridiem) :
    ∃ t, o.halfName m = .ok (.text t) := by
  obtain ⟨names, hn⟩ := h
  unfold Options.halfName
  cases hs : o.halfNames with
  | rule name => simp [hs, NameSource.names?] at hn
  | table entries fits =>
    rw [hs] at hn
    obtain rfl : entries = names.map .text := Option.some.inj hn
    exact ⟨_, congrArg Except.ok (List.getElem_map Datum.text)⟩

theorem HasTexts.halfName (ho : o.HasTexts) (m : Meridiem) :
    ∃ t, o.halfName m = .ok (.text t) :=
  halfName_text ho.halves m

theorem hasTexts_default : default.HasTexts where
  halves := ⟨englishHalves, rfl⟩
  months := ⟨englishMonths, rfl⟩
  shortMonths := by simp [default]
  weekdays := ⟨englishWeekdays, rfl⟩
  shortWeekdays := by simp [default]

end Options

end CalendarText
