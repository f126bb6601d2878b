import CalendarText.Directive
import CalendarText.Value
import CalendarText.Proofs.Outcomes

/-! What the parts of a rendering can fail with. Calendar arithmetic, padding and the slots of a text
fail for causes of their own, and constructions and their checks only refuse. No such cause is a
malformed section of a template, which only a rule for names can bring into a directive. -/

namespace CalendarText

variable {α β : Type}

/-- If the outcome is a failure, it is an allowed one. -/
def FailsOnly (allowed : Failure → Prop) (x : Outcome α) : Prop :=
  ∀ e, x = .error e → allowed e

variable {allowed allowed' : Failure → Prop} {x y : Outcome α}

@[simp] theorem failsOnly_ok (a : α) : FailsOnly allowed (.ok a : Outcome α) := by
  simp [FailsOnly]

@[simp] theorem failsOnly_error {e : Failure} :
    FailsOnly allowed (.error e : Outcome α) ↔ allowed e := by
  simp [FailsOnly]

theorem FailsOnly.imp (h : FailsOnly allowed x) (ha : ∀ e, allowed e → allowed' e) :
    FailsOnly allowed' x :=
  fun e he => ha e (h e he)

@[simp] theorem throw_eq_error (e : Failure) : (throw e : Outcome α) = .error e := rfl

@[simp] theorem failsOnly_bind {g : α → Outcome β} :
    FailsOnly allowed (x >>= g) ↔
      FailsOnly allowed x ∧ ∀ a, x = .ok a → FailsOnly allowed (g a) := by
  cases x <;> simp

@[simp] theorem failsOnly_ite {c : Prop} [Decidable c] :
    FailsOnly allowed (if c then x else y) ↔
      (c → FailsOnly allowed x) ∧ (¬c → FailsOnly allowed y) := by
  split <;> simp [*]

def Failure.IsMalformed : Failure → Prop
  | .malformed _ _ _ => True
  | _ => False

@[simp] theorem Failure.not_isMalformed {e : Failure}
    (h : ∀ fault written position, e ≠ .malformed fault written position) : ¬e.IsMalformed := by
  cases e with
  | malformed fault written position => exact absurd rfl (h fault written position)
  | _ => exact not_false

@[simp] theorem Failure.isMalformed_raised {e : Failure} : e.raised.IsMalformed ↔ e.IsMalformed := by
  by_cases he : e.isWritable = true
  · rw [raised_of_isWritable he]
  · rw [raised_of_not (Bool.eq_false_iff.mpr he)]
    cases e with
    | malformed fault written position => exact absurd rfl he
    | _ => exact Iff.rfl

/-- The outcome does not report a section as malformed. -/
abbrev NeverMalformed (x : Outcome α) : Prop :=
  FailsOnly (fun e => ¬e.IsMalformed) x

namespace Datum

@[simp] theorem toNumber_neverMalformed (d : Datum) : NeverMalformed d.toNumber := by
  cases d <;> simp [toNumber]

@[simp] theorem written_neverMalformed (d : Datum) : NeverMalformed d.written := by
  simp [written]

@[simp] theorem toWhole_neverMalformed (d : Datum) : NeverMalformed d.toWhole := by
  cases d <;> simp [toWhole]

@[simp] theorem afterSign_neverMalformed (d : Datum) (sign : Char) :
    NeverMalformed (d.afterSign sign) := by
  cases d <;> simp [afterSign]

theorem firstPart_failsOnly (d length : Datum) :
    FailsOnly (· = .wrongKind) (d.firstPart length) := by
  have hc (count : {α : Type} → List α → Nat) :
      FailsOnly (· = .wrongKind) (firstPart.cut d count) := by
    cases d <;> simp [firstPart.cut]
  cases length <;> simp [firstPart, hc]

@[simp] theorem firstPart_neverMalformed (d length : Datum) :
    NeverMalformed (d.firstPart length) :=
  (d.firstPart_failsOnly length).imp (by simp)

end Datum

namespace Number

@[simp] theorem written_neverMalformed (a : Number) : NeverMalformed a.written := by
  cases a <;> simp [written]

@[simp] theorem toReal_neverMalformed (a : Number) : NeverMalformed a.toReal := by
  cases a with
  | whole n =>
    rw [toReal]
    generalize Binary64.ofInt n = r
    cases r <;> simp [withinRange]
  | real r => simp [toReal]

@[simp] theorem add_neverMalformed (a b : Number) : NeverMalformed (a.add b) := by
  unfold add
  split <;> simp

@[simp] theorem sub_neverMalformed (a b : Number) : NeverMalformed (a.sub b) := by
  unfold sub
  split <;> simp

@[simp] theorem mul_neverMalformed (a b : Number) : NeverMalformed (a.mul b) := by
  unfold mul
  split <;> simp

end Number

@[simp] theorem Slot.convert_neverMalformed (s : Slot) (n : Nat) (conversion : Char) :
    NeverMalformed (s.convert n conversion) := by
  fun_cases convert s n conversion <;> simp

@[simp] theorem Slot.fill_neverMalformed (n : Nat) (used : Bool) (t : Text) :
    NeverMalformed (fill n used t) := by
  unfold fill
  simp only [throw_eq_error, failsOnly_bind, failsOnly_ite]
  refine ⟨by simp, fun _ => ⟨by simp, fun _ => ⟨?_, fun read _ => ?_⟩⟩⟩
  · split <;> simp
  · split <;> simp

theorem fillFrom_neverMalformed (n fuel : Nat) (used : Bool) (t : Text) :
    NeverMalformed (fillFrom n fuel used t) := by
  fun_induction fillFrom n fuel used t <;> simp_all

@[simp] theorem fillSlots_neverMalformed (t : Text) (n : Nat) : NeverMalformed (fillSlots t n) :=
  fillFrom_neverMalformed n _ _ _

namespace Gregorian.Unchecked

@[simp] theorem remainder_neverMalformed (d : Datum) (n : Nat) :
    NeverMalformed (remainder d n) := by
  cases d <;> simp [remainder]

@[simp] theorem isLeap_neverMalformed (year : Datum) : NeverMalformed (isLeap year) := by
  simp [isLeap]

@[simp] theorem daysBeforeMonth_neverMalformed (year month : Datum) :
    NeverMalformed (daysBeforeMonth year month) := by
  unfold daysBeforeMonth
  simp only [failsOnly_bind, Datum.toWhole_neverMalformed, true_and]
  intro m _
  split <;> simp

@[simp] theorem ordinalNumber_neverMalformed (year month day : Datum) :
    NeverMalformed (ordinalNumber year month day) := by
  simp [ordinalNumber, daysBeforeYear]

@[simp] theorem dayOfYear_neverMalformed (year month day : Datum) :
    NeverMalformed (dayOfYear year month day) := by
  simp [dayOfYear]

@[simp] theorem dayOfWeek_neverMalformed (year month day : Datum) :
    NeverMalformed (dayOfWeek year month day) := by
  simp [dayOfWeek]

@[simp] theorem quarter_neverMalformed (month : Datum) : NeverMalformed (quarter month) := by
  simp [quarter]

end Gregorian.Unchecked

@[simp] theorem fillUp_neverMalformed (d fill : Datum) (missing : Number) :
    NeverMalformed (fillUp d fill missing) := by
  unfold fillUp
  split <;> simp

@[simp] theorem padItem_neverMalformed (d width fill : Datum) :
    NeverMalformed (padItem d width fill) := by
  unfold padItem
  cases d.size? <;> simp

@[simp] theorem padDatum_neverMalformed (d width fill : Datum) :
    NeverMalformed (padDatum d width fill) := by
  cases d <;> simp [padDatum, padNumberItem]

namespace Fields

@[simp] theorem require_neverMalformed (f : Fields) (x : Field) (tag : Datum) :
    NeverMalformed (f.require x tag) := by
  unfold require
  split <;> simp

@[simp] theorem fraction_neverMalformed (f : Fields) (tag : Datum) :
    NeverMalformed (f.fraction tag) := by
  simp only [fraction, failsOnly_bind, require_neverMalformed, true_and]
  intro d _
  split <;> simp

@[simp] theorem dayOfWeek_neverMalformed (f : Fields) (tag : Datum) :
    NeverMalformed (f.dayOfWeek tag) := by
  simp [dayOfWeek]

@[simp] theorem dayOfYear_neverMalformed (f : Fields) (tag : Datum) :
    NeverMalformed (f.dayOfYear tag) := by
  simp [dayOfYear]

@[simp] theorem quarter_neverMalformed (f : Fields) (tag : Datum) :
    NeverMalformed (f.quarter tag) := by
  simp [quarter]

end Fields

/-- The source is a rule, which fails so for the key. -/
def NameSource.FailsAt {κ : Type} {size : Int} (source : NameSource κ size) (key : κ)
    (e : Failure) : Prop :=
  ∃ rule, source = .rule rule ∧ rule key = .error e

/-- If the failure is a malformed section, the source gave it for the index. -/
def NameSource.Blamed {size : Int} (source : NameSource Whole size) (index : Datum) (e : Failure) :
    Prop :=
  e.IsMalformed → ∃ w, index = .whole w ∧ source.FailsAt w e

namespace Naming

theorem name_failsOnly {n : Naming} (ha : ∀ e, ¬e.IsMalformed → allowed e) {index : Datum}
    (hn : ∀ rule w, n.names = .rule rule → index = .whole w → FailsOnly allowed (rule w)) :
    FailsOnly allowed (n.name index) := by
  have hr (reason : Refusal) : allowed (Failure.refused reason).raised := ha _ (by simp)
  cases index with
  | whole w =>
    have hs : FailsOnly allowed n.size.toNumber := n.size.toNumber_neverMalformed.imp ha
    cases hx : n.names with
    | table names =>
      cases hd : names[w.toInt.toNat - 1]? <;> simp [name, hs, ha, hx, hd]
    | rule rule => simp [name, hs, hr, hx, hn rule w hx rfl]
  | _ => simp [name, hr]

variable {size : Int} {source : NameSource Whole size}

theorem source_failsOnly (label index : Datum) :
    FailsOnly (source.Blamed index) (Naming.name ⟨label, .ofInt size, source.plain⟩ index) := by
  refine name_failsOnly (fun e he hm => absurd hm he) fun rule w hr hi => ?_
  cases source with
  | table names fits => simp [NameSource.plain] at hr
  | rule name =>
    obtain rfl : name = rule := by simpa [NameSource.plain] using hr
    exact fun e he _ => ⟨w, hi, name, rfl, he⟩

theorem shortened_failsOnly {n : Naming} {index : Datum}
    (hn : FailsOnly (source.Blamed index) (n.name index)) (length : Datum) :
    FailsOnly (source.Blamed index) ((n.shortened length).name index) := by
  refine name_failsOnly (fun e he hm => absurd hm he) fun rule w hr hi => ?_
  obtain rfl : (fun w => do (← n.name (.whole w)).firstPart length) = rule := by
    simpa [shortened] using hr
  rw [hi] at hn
  exact failsOnly_bind.mpr ⟨hi ▸ hn, fun d _ =>
    (d.firstPart_neverMalformed length).imp fun e he hm => absurd hm he⟩

end Naming

namespace Options

variable (o : Options) (index : Datum)

theorem months_failsOnly : FailsOnly (o.monthNames.Blamed index) (o.months.name index) :=
  Naming.source_failsOnly _ index

theorem weekdays_failsOnly : FailsOnly (o.weekdayNames.Blamed index) (o.weekdays.name index) :=
  Naming.source_failsOnly _ index

theorem shortMonths_failsOnly :
    FailsOnly ((o.shortMonthNames.getD o.monthNames).Blamed index) (o.shortMonths.name index) := by
  unfold shortMonths
  cases o.shortMonthNames with
  | some source => exact Naming.source_failsOnly _ index
  | none => exact Naming.shortened_failsOnly (o.months_failsOnly index) _

theorem shortWeekdays_failsOnly :
    FailsOnly ((o.shortWeekdayNames.getD o.weekdayNames).Blamed index)
      (o.shortWeekdays.name index) := by
  unfold shortWeekdays
  cases o.shortWeekdayNames with
  | some source => exact Naming.source_failsOnly _ index
  | none => exact Naming.shortened_failsOnly (o.weekdays_failsOnly index) _

end Options

namespace Directive

/-- The rule that a directive takes names from fails so, for the number that the fields have for it. -/
def RuleFails (d : Directive) (f : Fields) (o : Options) (e : Failure) : Prop :=
  match d with
  | shortWeekdayName => ∃ w, f.dayOfWeek d.tag = .ok (.whole w) ∧
      (o.shortWeekdayNames.getD o.weekdayNames).FailsAt w e
  | weekdayName => ∃ w, f.dayOfWeek d.tag = .ok (.whole w) ∧ o.weekdayNames.FailsAt w e
  | shortMonthName => ∃ w, f.value? .month = some (.whole w) ∧
      (o.shortMonthNames.getD o.monthNames).FailsAt w e
  | monthName => ∃ w, f.value? .month = some (.whole w) ∧ o.monthNames.FailsAt w e
  | upperHalf | lowerHalf => ∃ hour m, f.value? .hour = some hour ∧
      Meridiem.ofHour hour = .ok m ∧ o.halfNames.FailsAt m e
  | _ => False

/-- If the failure is a malformed section, the rule that the directive takes names from gave it. -/
def Blamed (d : Directive) (f : Fields) (o : Options) (e : Failure) : Prop :=
  e.IsMalformed → d.RuleFails f o e

variable {d : Directive} {f : Fields} {o : Options}

theorem blamed_of_not {e : Failure} (he : ¬e.IsMalformed) : d.Blamed f o e :=
  fun hm => absurd hm he

theorem blamed_of_never (h : NeverMalformed x) : FailsOnly (d.Blamed f o) x :=
  h.imp fun _ => blamed_of_not

theorem require_eq_ok_iff {field : Field} {tag x : Datum} :
    f.require field tag = .ok x ↔ f.value? field = some x := by
  unfold Fields.require
  cases f.value? field <;> simp

/-- A name is asked for by an index that the fields give. -/
theorem name_blamed {size : Int} {source : NameSource Whole size} {index : Outcome Datum}
    {name : Datum → Outcome Datum} (hi : NeverMalformed index)
    (hn : ∀ i, FailsOnly (source.Blamed i) (name i))
    (hd : ∀ e w, index = .ok (.whole w) → source.FailsAt w e → d.RuleFails f o e) :
    FailsOnly (d.Blamed f o) (index >>= name) := by
  refine failsOnly_bind.mpr ⟨blamed_of_never hi, fun i hx e he hm => ?_⟩
  obtain ⟨w, rfl, hs⟩ := hn i e he hm
  exact hd e w hx hs

theorem halfText_blamed (hd : d = upperHalf ∨ d = lowerHalf) :
    FailsOnly (d.Blamed f o) (d.halfText f o) := by
  have hm (hour : Datum) : NeverMalformed (Meridiem.ofHour hour) := by simp [Meridiem.ofHour]
  refine failsOnly_bind.mpr ⟨blamed_of_never (by simp), fun hour hh =>
    failsOnly_bind.mpr ⟨blamed_of_never (hm hour), fun m hk =>
      failsOnly_bind.mpr ⟨fun e he _ => ?_, fun name _ => blamed_of_never (by cases name <;> simp)⟩⟩⟩
  have hs : o.halfNames.FailsAt m e := by
    unfold Options.halfName at he
    split at he
    · exact absurd he (by simp)
    · exact ⟨_, ‹_›, he⟩
  rcases hd with rfl | rfl <;> exact ⟨hour, m, require_eq_ok_iff.mp hh, hk, hs⟩

theorem content_blamed (d : Directive) (f : Fields) (o : Options) :
    FailsOnly (d.Blamed f o) (d.content f o) := by
  cases d with
  | shortWeekdayName =>
    exact name_blamed (by simp) o.shortWeekdays_failsOnly fun e w hw hs => ⟨w, hw, hs⟩
  | weekdayName => exact name_blamed (by simp) o.weekdays_failsOnly fun e w hw hs => ⟨w, hw, hs⟩
  | shortMonthName =>
    exact name_blamed (by simp) o.shortMonths_failsOnly
      fun e w hw hs => ⟨w, require_eq_ok_iff.mp hw, hs⟩
  | monthName =>
    exact name_blamed (by simp) o.months_failsOnly
      fun e w hw hs => ⟨w, require_eq_ok_iff.mp hw, hs⟩
  | upperHalf => exact failsOnly_bind.mpr ⟨halfText_blamed (.inl rfl), by simp⟩
  | lowerHalf => exact failsOnly_bind.mpr ⟨halfText_blamed (.inr rfl), by simp⟩
  | _ => exact blamed_of_never (by simp [content, clockHour])

theorem fractionText_neverMalformed (d : Datum) : NeverMalformed (fractionText d) := by
  have hm (d : Datum) : NeverMalformed (microsecondDigits d) := by
    cases d <;> simp [microsecondDigits]
  have hp (d : Datum) : NeverMalformed (shownDigits d) := by
    simp only [shownDigits, failsOnly_bind, Datum.toNumber_neverMalformed, true_and]
    intro n _
    cases n <;> simp
  unfold fractionText
  split <;> simp [hm, hp]

theorem offsetItem_neverMalformed (total : Number) (width fill : Datum) :
    NeverMalformed (offsetItem total width fill) := by
  simp [offsetItem, hoursMinutes]

/-- What a directive fails with is no malformed section, unless the rule for its names says so. -/
theorem format_blamed (d : Directive) (f : Fields) (o : Options) (m : Modifiers) :
    FailsOnly (d.Blamed f o) (d.format f o m) := by
  have hc : FailsOnly (d.Blamed f o) (d.content f o) := d.content_blamed f o
  cases d with
  | fraction => exact blamed_of_never (by simp [format, formatItem, fractionText_neverMalformed])
  | offset => exact blamed_of_never (by simp [format, formatItem, offsetItem_neverMalformed])
  | zoneName => exact blamed_of_never (by simp [format, formatItem])
  | _ => exact failsOnly_bind.mpr ⟨hc, fun d _ => blamed_of_never (by simp)⟩

end Directive

/-- A refusal, or what is reported for one that names a number which is too long. -/
def Failure.IsRefusal (e : Failure) : Prop :=
  (∃ reason, e = .refused reason) ∨ e = .tooLong

@[simp] theorem Failure.isRefusal_refused (reason : Refusal) : (refused reason).IsRefusal :=
  .inl ⟨reason, rfl⟩

@[simp] theorem Failure.isRefusal_raised (reason : Refusal) : (refused reason).raised.IsRefusal := by
  unfold raised
  split
  · exact isRefusal_refused reason
  · exact .inr rfl

@[simp] theorem Failure.raised_refused_eq_tooLong_iff {reason : Refusal} :
    (refused reason).raised = .tooLong ↔ reason.isWritable = false := by
  cases hr : reason.isWritable <;> simp [raised, isWritable, hr]

/-- The outcome fails by a refusal if it fails. -/
abbrev OnlyRefuses (x : Outcome α) : Prop :=
  FailsOnly Failure.IsRefusal x

theorem FailsOnly.neverMalformed (h : OnlyRefuses x) : NeverMalformed x := by
  refine h.imp ?_
  rintro _ (⟨reason, rfl⟩ | rfl) <;> simp

@[simp] theorem checkBetween_onlyRefuses (name : Text) (least most : Int) (d : Datum) :
    OnlyRefuses (checkBetween name least most d) := by
  unfold checkBetween
  split
  · split <;> simp
  · simp

@[simp] theorem checkDay_onlyRefuses (most : Int) (year : Datum) (month : Int) (day : Datum) :
    OnlyRefuses (checkDay most year month day) := by
  unfold checkDay
  split
  · split <;> simp
  · simp

@[simp] theorem Date.make_onlyRefuses (year month day : Datum) :
    OnlyRefuses (Date.make year month day) := by
  simp [make, checkYear, checkMonth]

@[simp] theorem TimeOfDay.make_onlyRefuses (hour minute second microsecond precision : Datum) :
    OnlyRefuses (TimeOfDay.make hour minute second microsecond precision) := by
  simp [make, checkPrecision]

theorem Zone.make_onlyRefuses (utcOffset stdOffset abbreviation : Datum) :
    OnlyRefuses (Zone.make utcOffset stdOffset abbreviation) := by
  cases abbreviation <;> simp [make, checkOffset]

theorem DateTime.make_onlyRefuses
    (year month day hour minute second microsecond precision : Datum) (zone : ZoneChoice) :
    OnlyRefuses (DateTime.make year month day hour minute second microsecond precision zone) := by
  have hz : OnlyRefuses zone.check := by
    cases zone <;> simp [ZoneChoice.check]
  simp [make, hz]

@[simp] theorem Date.make_neverMalformed (year month day : Datum) :
    NeverMalformed (Date.make year month day) :=
  (make_onlyRefuses year month day).neverMalformed

@[simp] theorem TimeOfDay.make_neverMalformed (hour minute second microsecond precision : Datum) :
    NeverMalformed (TimeOfDay.make hour minute second microsecond precision) :=
  (make_onlyRefuses hour minute second microsecond precision).neverMalformed

@[simp] theorem Zone.make_neverMalformed (utcOffset stdOffset abbreviation : Datum) :
    NeverMalformed (Zone.make utcOffset stdOffset abbreviation) :=
  (make_onlyRefuses utcOffset stdOffset abbreviation).neverMalformed

@[simp] theorem DateTime.make_neverMalformed
    (year month day hour minute second microsecond precision : Datum) (zone : ZoneChoice) :
    NeverMalformed (DateTime.make year month day hour minute second microsecond precision zone) :=
  (make_onlyRefuses year month day hour minute second microsecond precision zone).neverMalformed

@[simp] theorem Value.part_neverMalformed (v : Value) (p : Part) : NeverMalformed (v.part p) := by
  unfold part
  split <;> simp

@[simp] theorem CivilTime.zoneChoice_neverMalformed (t : CivilTime) :
    NeverMalformed t.zoneChoice := by
  have ho (n : Option Int) : NeverMalformed (checkHostOffset n) := by
    cases n <;> simp [checkHostOffset]
  unfold zoneChoice
  cases t.offset with
  | none => simp
  | some offset =>
    simp only [failsOnly_bind, ho, true_and]
    intro utc _
    cases utc <;> simp [ho]

@[simp] theorem DateTime.ofValue_neverMalformed (v : Value) :
    NeverMalformed (DateTime.ofValue v) := by
  unfold ofValue
  split
  · split <;> simp [Date.ofValue, TimeOfDay.ofValue, combine]
  · simp

theorem Fields.ofPublished_neverMalformed (kind d : Datum) :
    NeverMalformed (ofPublished kind d) := by
  cases d <;> simp [ofPublished, ofPublished.withoutNames]

/-- A value that cannot be formatted is no malformed section either. -/
theorem Fields.ofValue_neverMalformed (v : Value) : NeverMalformed (ofValue v) := by
  unfold ofValue
  split <;>
    simp [ofPublished_neverMalformed, Date.ofValue, TimeOfDay.ofValue]

end CalendarText
