import CalendarText.Proofs.Requirements

/-! What directives show of fields that hold integers. If a directive shows anything, it is an integer
or a text, whatever the integers are: months and days need not be those of a calendar. -/

namespace CalendarText

variable {α β : Type}

/-- If the outcome is a result, it is a good one. -/
def GivesOnly (good : α → Prop) (x : Outcome α) : Prop :=
  ∀ a, x = .ok a → good a

@[simp] theorem givesOnly_ok {good : α → Prop} {a : α} :
    GivesOnly good (.ok a : Outcome α) ↔ good a := by
  simp [GivesOnly]

@[simp] theorem givesOnly_error {good : α → Prop} (e : Failure) :
    GivesOnly good (.error e : Outcome α) := by
  simp [GivesOnly]

theorem GivesOnly.bind {good : α → Prop} {good' : β → Prop} {x : Outcome α} {g : α → Outcome β}
    (hx : GivesOnly good x) (hg : ∀ a, good a → GivesOnly good' (g a)) :
    GivesOnly good' (x >>= g) := by
  intro b hb
  obtain ⟨a, ha, hb⟩ := bind_eq_ok_iff.mp hb
  exact hg a (hx a ha) b hb

theorem GivesOnly.bind_of_forall {good : β → Prop} {x : Outcome α} {g : α → Outcome β}
    (hg : ∀ a, GivesOnly good (g a)) : GivesOnly good (x >>= g) := by
  intro b hb
  obtain ⟨a, -, hb⟩ := bind_eq_ok_iff.mp hb
  exact hg a b hb

theorem GivesOnly.imp {good good' : α → Prop} {x : Outcome α} (h : GivesOnly good x)
    (hg : ∀ a, good a → good' a) : GivesOnly good' x :=
  fun a ha => hg a (h a ha)

/-- Every name that the source gives is a text. -/
def NameSource.OnlyTexts {size : Int} : NameSource Whole size → Prop
  | .table names _ => ∀ d ∈ names, d.IsText
  | .rule name => ∀ w, GivesOnly Datum.IsText (name w)

/-- The names of months and weekdays are texts. Those of the halves of the day are not asked about,
because only a text is put into upper or lower case. -/
structure Options.OnlyTexts (o : Options) : Prop where
  months : o.monthNames.OnlyTexts
  shortMonths : ∀ source ∈ o.shortMonthNames, source.OnlyTexts
  weekdays : o.weekdayNames.OnlyTexts
  shortWeekdays : ∀ source ∈ o.shortWeekdayNames, source.OnlyTexts

/-- The fields hold integers, and the name of the zone is a text. Nothing is asked of the fraction of a
second, which may be a pair. -/
structure Fields.HasIntegers (f : Fields) : Prop where
  whole : ∀ x d, x.IsWhole → f.value? x = some d → ∃ w, d = .whole w
  zoneName : ∀ d, f.value? .zoneName = some d → d.IsText

theorem Fields.Sound.hasIntegers {f : Fields} (hf : f.Sound) : f.HasIntegers where
  whole x d hx hd := by
    obtain ⟨w, hw, -⟩ := hf.whole x d hx hd
    exact ⟨w, hw⟩
  zoneName := hf.zoneName

theorem NameSource.OnlyTexts.entry {size : Int} {source : NameSource Whole size}
    (h : source.OnlyTexts) (w : Whole) : GivesOnly Datum.IsText (source.plain.entry w) := by
  cases source with
  | table names fits =>
    simp only [plain, Names.entry]
    split
    · exact givesOnly_ok.mpr (h _ (List.mem_of_getElem? ‹_›))
    · exact givesOnly_error _
  | rule name => exact h w

theorem Naming.name_onlyTexts {names : Names Whole}
    (h : ∀ w, GivesOnly Datum.IsText (names.entry w)) (label : Datum) (size : Int) (index : Datum) :
    GivesOnly Datum.IsText (Naming.name ⟨label, .ofInt size, names⟩ index) := by
  cases index with
  | whole w =>
    rw [name_whole]
    split
    · exact h w
    · exact givesOnly_error _
  | _ => exact givesOnly_error _

/-- Names that are cut are texts as the full ones are. -/
theorem Naming.short_onlyTexts {names : Names Whole} {size : Int}
    {short? : Option (NameSource Whole size)}
    (h : ∀ w, GivesOnly Datum.IsText (names.entry w)) (h' : ∀ source ∈ short?, source.OnlyTexts)
    (label : Datum) (length : Nat) (index : Datum) :
    GivesOnly Datum.IsText
      ((Naming.short ⟨label, .ofInt size, names⟩ short? length).name index) := by
  cases short? with
  | some source => exact name_onlyTexts (h' source rfl).entry label size index
  | none =>
    refine name_onlyTexts (fun w => ?_) label size index
    refine (name_onlyTexts h label size (.whole w)).bind ?_
    rintro _ ⟨t, rfl⟩
    exact givesOnly_ok.mpr ⟨_, rfl⟩

theorem Options.onlyTexts_default : default.OnlyTexts where
  months := by simp [NameSource.OnlyTexts, default, englishMonths, Datum.IsText]
  shortMonths := by simp [default]
  weekdays := by simp [NameSource.OnlyTexts, default, englishWeekdays, Datum.IsText]
  shortWeekdays := by simp [default]

namespace Options.OnlyTexts

variable {o : Options}

theorem months_give (ho : o.OnlyTexts) (index : Datum) :
    GivesOnly Datum.IsText (o.months.name index) :=
  Naming.name_onlyTexts ho.months.entry _ _ index

theorem weekdays_give (ho : o.OnlyTexts) (index : Datum) :
    GivesOnly Datum.IsText (o.weekdays.name index) :=
  Naming.name_onlyTexts ho.weekdays.entry _ _ index

theorem shortMonths_give (ho : o.OnlyTexts) (index : Datum) :
    GivesOnly Datum.IsText (o.shortMonths.name index) := by
  rw [shortMonths_eq]
  exact Naming.short_onlyTexts ho.months.entry ho.shortMonths _ _ index

theorem shortWeekdays_give (ho : o.OnlyTexts) (index : Datum) :
    GivesOnly Datum.IsText (o.shortWeekdays.name index) := by
  rw [shortWeekdays_eq]
  exact Naming.short_onlyTexts ho.weekdays.entry ho.shortWeekdays _ _ index

end Options.OnlyTexts

namespace Fields.HasIntegers

variable {f : Fields}

theorem require_whole (hf : f.HasIntegers) (x : Field) (hx : x.IsWhole) (tag : Datum) :
    GivesOnly (fun d => ∃ w, d = .whole w) (f.require x tag) := by
  rw [require]
  split
  · exact givesOnly_ok.mpr (hf.whole x _ hx ‹_›)
  · exact givesOnly_error _

theorem require_date (hf : f.HasIntegers) {g : Datum → Datum → Datum → Outcome Datum}
    {good : Datum → Prop} (tag : Datum)
    (hg : ∀ y m d : Whole, GivesOnly good (g (.whole y) (.whole m) (.whole d))) :
    GivesOnly good (do
      let year ← f.require .year tag
      let month ← f.require .month tag
      let day ← f.require .day tag
      g year month day) := by
  refine (hf.require_whole .year (by decide) tag).bind fun _ ⟨y, hy⟩ => ?_
  refine (hf.require_whole .month (by decide) tag).bind fun _ ⟨m, hm⟩ => ?_
  refine (hf.require_whole .day (by decide) tag).bind fun _ ⟨d, hd⟩ => ?_
  rw [hy, hm, hd]
  exact hg y m d

end Fields.HasIntegers

namespace Directive

variable {f : Fields} {o : Options}

/-- A directive shows an integer or a text. -/
theorem content_plain (hf : f.HasIntegers) (ho : o.OnlyTexts) (d : Directive) :
    GivesOnly Datum.IsPlain (d.content f o) := by
  have whole (x : Field) (hx : x.IsWhole) : GivesOnly Datum.IsPlain (f.require x d.tag) :=
    (hf.require_whole x hx d.tag).imp fun _ hw => .inl hw
  have number (x : Field) (hx : x.IsWhole) {g : Datum → Outcome Datum}
      (hg : ∀ w : Whole, ∃ v : Whole, g (.whole w) = .ok (.whole v)) :
      GivesOnly Datum.IsPlain (f.require x d.tag >>= g) := by
    refine (hf.require_whole x hx d.tag).bind fun _ ⟨w, hw⟩ => ?_
    obtain ⟨v, hv⟩ := hg w
    rw [hw, hv]
    exact givesOnly_ok.mpr (.inl ⟨v, rfl⟩)
  have name {n : Naming} (hn : ∀ index, GivesOnly Datum.IsText (n.name index))
      (index : Outcome Datum) : GivesOnly Datum.IsPlain (index >>= n.name) :=
    GivesOnly.bind_of_forall fun i => (hn i).imp fun _ ht => .inr ht
  have text (x : Outcome Text) (g : Text → Text) :
      GivesOnly Datum.IsPlain (do return .text (g (← x))) :=
    GivesOnly.bind_of_forall fun _ => givesOnly_ok.mpr (.inr ⟨_, rfl⟩)
  cases d with
  | percent => exact givesOnly_ok.mpr (.inr ⟨_, rfl⟩)
  | shortWeekdayName => exact name ho.shortWeekdays_give _
  | weekdayName => exact name ho.weekdays_give _
  | shortMonthName => exact name ho.shortMonths_give _
  | monthName => exact name ho.months_give _
  | day => exact whole .day (by decide)
  | hour => exact whole .hour (by decide)
  | month => exact whole .month (by decide)
  | minute => exact whole .minute (by decide)
  | second => exact whole .second (by decide)
  | year => exact whole .year (by decide)
  | halfDayHour => exact number .hour (by decide) fun w => ⟨_, rfl⟩
  | yearOfCentury => exact number .year (by decide) fun w => ⟨_, rfl⟩
  | quarter => exact number .month (by decide) fun w => ⟨_, rfl⟩
  | upperHalf => exact text _ upperText
  | lowerHalf => exact text _ lowerText
  | dayOfYear =>
    refine hf.require_date _ fun y m d => ?_
    rw [Gregorian.Unchecked.dayOfYear_whole]
    split
    · exact givesOnly_ok.mpr (.inl ⟨_, rfl⟩)
    · exact givesOnly_error _
  | weekday =>
    refine hf.require_date _ fun y m d => ?_
    rw [Gregorian.Unchecked.dayOfWeek_whole]
    split
    · exact givesOnly_ok.mpr (.inl ⟨_, rfl⟩)
    · exact givesOnly_error _
  | preferred _ | fraction | offset | zoneName => exact givesOnly_error _

end Directive

end CalendarText
