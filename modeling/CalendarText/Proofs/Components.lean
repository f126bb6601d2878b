import CalendarText.Proofs.Digits
import CalendarText.Proofs.Joining
import CalendarText.Proofs.Requirements

/-! The parts of a datetime as text. Directives without modifiers show a date and a time as numbers
filled up with zeros, a fraction of a second as its first digits, and an offset as hours and
minutes after its sign. -/

namespace CalendarText

namespace Directive

/-- The section that names a directive and nothing else. -/
def bare (d : Directive) : Section :=
  ⟨none, [], some d.letter⟩

/-- The field that a directive shows as it is. -/
def shown? : Directive → Option Field
  | day => some .day
  | hour => some .hour
  | month => some .month
  | minute => some .minute
  | second => some .second
  | year => some .year
  | _ => none

theorem known?_bare (d : Directive) : d.bare.known? = some d :=
  ofLetter?_letter d

theorem resolve_bare (d : Directive) :
    d.bare.resolve d.defaultFill d.defaultWidth = ⟨d.defaultWidth, d.defaultFill⟩ := by
  cases d <;> rfl

variable {f : Fields} {o : Options} {expand : Preferred → Outcome Text}

theorem renderSection_bare {d : Directive} (hd : ∀ p, d ≠ .preferred p) (k : Nat) :
    renderSection f o expand k d.bare = d.format f o ⟨d.defaultWidth, d.defaultFill⟩ := by
  rw [renderSection_known d.known?_bare hd, resolve_bare]

theorem renderSection_whole {d : Directive} (hd : d.IsPadded) {w : Whole}
    (hc : d.content f o = .ok (.whole w)) (hw : w.isWritable = true) (k : Nat) :
    renderSection f o expand k d.bare =
      .ok (.text (padNumber w d.defaultWidth d.defaultFill)) := by
  rw [renderSection_bare (by rintro p rfl; exact hd), format_padded hd, hc]
  exact padDatum_whole_of_isWritable hw _ _

theorem renderSection_shown {d : Directive} {x : Field} (hd : d.shown? = some x) {w : Whole}
    (hw : f.value? x = some (.whole w)) (hs : w.isWritable = true) (k : Nat) :
    renderSection f o expand k d.bare =
      .ok (.text (padNumber w d.defaultWidth d.defaultFill)) := by
  have hp : d.IsPadded := by cases d <;> simp_all [shown?, IsPadded]
  have hc : d.content f o = .ok (.whole w) := by
    cases d <;> simp only [shown?, Option.some.injEq, reduceCtorEq] at hd <;> subst hd <;>
      simp [content, Fields.require, hw]
  exact renderSection_whole hp hc hs k

theorem read_bare (d : Directive) : Template.read d.bare.text = [.directive d.bare] := by
  cases d with
  | preferred p => cases p <;> rfl
  | _ => rfl

/-- A template that is one bare section shows the text of that section or fails as it does. -/
theorem render_bare {v : Value} (hv : Fields.ofValue v = .ok f) {d : Directive} {x : Outcome Text}
    (hs : renderSection f o (expansion f o Preferred.all) 0 d.bare = (do return .text (← x))) :
    render (.text d.bare.text) v o = x := by
  rw [render_eq_renderWithin hv, renderWithin_eq, read_bare]
  exact joined_outcome hs

end Directive

def Date.text (d : Date) : Text :=
  padNumber (.number d.year) 4 zeroFill ++ '-' :: (padNumber (.number d.month) 2 zeroFill ++
    '-' :: padNumber d.day 2 zeroFill)

namespace TimeOfDay

/-- The number of digits that a fraction of a second is shown with. -/
def fractionDigits (t : TimeOfDay) : Nat :=
  (max t.precision 1).toNat

def fractionText (t : TimeOfDay) : Text :=
  (padLeading (numeral t.microsecond.natAbs) 6 zeroFill).take t.fractionDigits

def text (t : TimeOfDay) : Text :=
  padNumber (.number t.hour) 2 zeroFill ++ ':' :: (padNumber (.number t.minute) 2 zeroFill ++
    ':' :: (padNumber (.number t.second) 2 zeroFill ++ '.' :: t.fractionText))

theorem fractionDigits_mem (t : TimeOfDay) : 1 ≤ t.fractionDigits ∧ t.fractionDigits ≤ 6 := by
  have hp : t.precision ≤ 6 := t.precision_mem.2
  unfold fractionDigits
  omega

theorem length_digits (t : TimeOfDay) :
    (padLeading (numeral t.microsecond.natAbs) 6 zeroFill).length = 6 := by
  have hu := t.microsecond_mem
  have hl : t.microsecond.natAbs < 1000000 := by omega
  exact length_padded_numeral (by decide) hl

theorem length_fractionText (t : TimeOfDay) : t.fractionText.length = t.fractionDigits := by
  rw [fractionText, List.length_take, length_digits, Nat.min_eq_left t.fractionDigits_mem.2]

theorem isDigits_fractionText (t : TimeOfDay) : IsDigits t.fractionText :=
  fun c hc => isDigits_padded_numeral _ 6 c (List.mem_of_mem_take hc)

theorem numeralValue_fractionText (t : TimeOfDay) :
    numeralValue t.fractionText = t.microsecond.natAbs / 10 ^ (6 - t.fractionDigits) := by
  rw [fractionText, numeralValue_take (isDigits_padded_numeral _ 6), numeralValue_padded_numeral,
    length_digits]

theorem inDigits_fractionText (t : TimeOfDay) :
    InDigits t.fractionText t.fractionDigits (t.microsecond / 10 ^ (6 - t.fractionDigits)) := by
  refine ⟨t.isDigits_fractionText, t.length_fractionText, ?_⟩
  rw [numeralValue_fractionText, Int.natCast_ediv, Int.natAbs_of_nonneg t.microsecond_mem.1]
  norm_cast

end TimeOfDay

namespace Zone

/-- Hours and minutes of an offset, written as one number. -/
def hoursMinutes (z : Zone) : Nat :=
  Directive.hoursMinutesOf z.totalOffset

theorem isShort_hoursMinutes (z : Zone) : isShort z.hoursMinutes = true := by
  have hday : maxOffset = 86400 := rfl
  have hu := z.utcOffset_mem
  have hs := z.stdOffset_mem
  exact Directive.isShort_hoursMinutesOf_of_lt (by unfold totalOffset; omega)

def offsetText (z : Zone) : Text :=
  (if 0 ≤ z.totalOffset then '+' else '-') :: padLeading (numeral z.hoursMinutes) 4 zeroFill

end Zone

def DateTime.offsetText (x : DateTime) : Text :=
  (x.zone.map Zone.offsetText).getD []

/-- The pieces of `%Y-%m-%d`. -/
def datePieces : List Piece :=
  [.directive Directive.year.bare, .literal '-', .directive Directive.month.bare, .literal '-',
    .directive Directive.day.bare]

/-- The pieces of `%H:%M:%S.%f`. -/
def timePieces : List Piece :=
  [.directive Directive.hour.bare, .literal ':', .directive Directive.minute.bare, .literal ':',
    .directive Directive.second.bare, .literal '.', .directive Directive.fraction.bare]

namespace DateTime

/-- The view of a datetime that the directives read. -/
def fields (x : DateTime) : Fields :=
  ⟨.text (Value.datetime x).kind, x.published⟩

variable (x : DateTime) (o : Options) (expand : Preferred → Outcome Text)

theorem fields_sound : x.fields.Sound :=
  x.published_sound _

theorem renderSection_field {d : Directive} {y : Field} (hd : d.shown? = some y) {w : Whole}
    (hw : x.published y = some (.whole w)) (k : Nat) :
    renderSection x.fields o expand k d.bare =
      .ok (.text (padNumber w d.defaultWidth d.defaultFill)) := by
  have hy : y.IsWhole := by
    cases d <;> simp only [Directive.shown?, Option.some.injEq, reduceCtorEq] at hd <;> subst hd <;>
      decide
  obtain ⟨w', hw', hs⟩ := x.fields_sound.whole y _ hy hw
  obtain rfl : w = w' := Datum.whole.inj hw'
  exact Directive.renderSection_shown (f := x.fields) hd hw hs.isWritable k

theorem joined_date (k : Nat) : joined x.fields o expand k datePieces = .ok x.date.text := by
  rw [datePieces, joined_text (renderSection_field x o expand (y := .year) rfl rfl k),
    joined_literal, joined_text (renderSection_field x o expand (y := .month) rfl rfl _),
    joined_literal, joined_single (renderSection_field x o expand (y := .day) rfl rfl _)]
  rfl

theorem renderSection_fraction (k : Nat) :
    renderSection x.fields o expand k Directive.fraction.bare =
      .ok (.text x.time.fractionText) := by
  rw [Directive.renderSection_bare (by simp)]
  have hu : ¬x.time.microsecond < 0 := Int.not_lt.mpr x.time.microsecond_mem.1
  have hm := x.time.microsecond_mem
  have hs : isShort x.time.microsecond = true := isShort_of_lt (by omega)
  have hr : x.fields.fraction Directive.fraction.tag =
      .ok (.tuple [.ofInt x.time.microsecond, .ofInt x.time.precision]) := rfl
  simp only [Directive.format, Directive.formatItem, hr, ok_bind, Directive.fractionText,
    Datum.ofInt, Directive.microsecondDigits, Whole.isWritable_number, hs, Whole.toInt_number, hu,
    if_true, if_false, Directive.shownDigits, Datum.toNumber_whole, pure_eq_ok, TimeOfDay.fractionText,
    TimeOfDay.fractionDigits]

theorem joined_time (k : Nat) : joined x.fields o expand k timePieces = .ok x.time.text := by
  rw [timePieces, joined_text (renderSection_field x o expand (y := .hour) rfl rfl k),
    joined_literal, joined_text (renderSection_field x o expand (y := .minute) rfl rfl _),
    joined_literal, joined_text (renderSection_field x o expand (y := .second) rfl rfl _),
    joined_literal, joined_single (renderSection_fraction x o expand _)]
  rfl

theorem joined_offset (k : Nat) :
    joined x.fields o expand k [.directive Directive.offset.bare] = .ok x.offsetText := by
  apply joined_single
  rw [Directive.renderSection_bare (by simp)]
  obtain ⟨date, time, zone⟩ := x
  cases zone with
  | none => rfl
  | some z =>
    rw [Directive.offset_whole (u := .number z.utcOffset) (s := .number z.stdOffset) rfl rfl,
      Directive.offsetItem_whole]
    exact if_pos z.isShort_hoursMinutes

end DateTime

end CalendarText
