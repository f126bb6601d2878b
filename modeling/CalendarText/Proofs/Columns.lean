import CalendarText.Proofs.DateFields
import CalendarText.Proofs.SectionGrammar
import CalendarText.Proofs.Verbatim

/-! Renderings in columns. From year 0 on the directives that show numbers, and the preferred ones
that expand to them, are as wide for one datetime as for another, so that the width of a rendering
and the place of every section in it can be told from the template alone. -/

namespace CalendarText

namespace Directive

/-- The directives with a width of their own: the percent sign, the preferred ones, and all that show
a number other than the fraction and the offset. -/
def tabularLetters : Text := "%cdHIjmMqSuxXyY".toList

def IsTabular (d : Directive) : Prop :=
  d.letter ∈ tabularLetters

instance (d : Directive) : Decidable d.IsTabular :=
  inferInstanceAs (Decidable (_ ∈ _))

/-- The number of characters that a directive shows without modifiers. -/
def columns : Directive → Nat
  | preferred .datetime => 19
  | preferred .date => 10
  | preferred .time => 8
  | d => max d.defaultWidth 1

theorem columns_eq {d : Directive} (hd : ∀ p, d ≠ .preferred p) :
    d.columns = max d.defaultWidth 1 := by
  cases d with
  | preferred p => exact absurd rfl (hd p)
  | _ => rfl

theorem columns_le {d : Directive} (hd : ∀ p, d ≠ .preferred p) : d.columns ≤ 7 := by
  cases d with
  | preferred p => exact absurd rfl (hd p)
  | _ => decide

end Directive

/-- A date from year 0 on whose day is a number proper. -/
structure Date.IsTabular (d : Date) : Prop where
  year_nonneg : 0 ≤ d.year
  day_number : ∃ n : Int, d.day = n

/-- A number can be written in so many columns without a sign. -/
structure Fits (n : Int) (columns : Nat) : Prop where
  nonneg : 0 ≤ n
  lt : n.natAbs < 10 ^ columns

theorem Fits.of_le {n : Int} {columns : Nat} (most : Nat) (hm : most < 10 ^ columns)
    (h : 0 ≤ n ∧ n ≤ most) : Fits n columns :=
  ⟨h.1, by omega⟩

theorem Fits.isShort {n : Int} {columns : Nat} (h : Fits n columns) (hc : columns ≤ 7) :
    isShort n = true :=
  isShort_of_lt (Nat.lt_of_lt_of_le h.lt (Nat.pow_le_pow_right (by decide) hc))

/-- A number that fits its width is as long as that, and one digit long where it has no width. -/
theorem Fits.length_padNumber {n : Int} {width : Nat} (h : Fits n (max width 1)) :
    (padNumber n width zeroFill).length = max width 1 := by
  have hl : (numeral n.natAbs).length ≤ max width 1 :=
    (Nat.length_toDigits_le_iff (by decide) (by omega)).mpr h.lt
  have hpos : 0 < (numeral n.natAbs).length := List.length_pos_iff.mpr (numeral_ne_nil _)
  have hp := length_padLeading_single (numeral n.natAbs) width '0'
  rw [padNumber_of_nonneg h.nonneg, zeroFill]
  omega

theorem DateTime.fields_hasDate (x : DateTime) :
    x.fields.HasDate (.number x.date.year) (.number x.date.month) x.date.day :=
  ⟨rfl, rfl, rfl, x.date.isDate⟩

namespace Directive

variable {d : Directive} {x : DateTime} {o : Options} {expand : Preferred → Outcome Text}

theorem filled_of_tabular (hd : d.IsTabular) (hp : ∀ p, d ≠ .preferred p) (hc : d ≠ percent) :
    d.IsPadded ∧ d.defaultFill = zeroFill := by
  cases d with
  | percent => exact absurd rfl hc
  | preferred p => exact absurd rfl (hp p)
  | _ => first
    | exact ⟨trivial, rfl⟩
    | exact absurd hd (by decide)

/-- The number that a directive shows has no more digits than the directive has columns. -/
theorem exists_number (hd : d.IsTabular) (hp : ∀ p, d ≠ .preferred p) (hc : d ≠ percent)
    (hx : x.date.IsTabular) (o : Options) :
    ∃ n : Int, d.content x.fields o = .ok (.ofInt n) ∧ Fits n d.columns := by
  have hmonth := x.date.month_mem
  cases d with
  | percent => exact absurd rfl hc
  | preferred p => exact absurd rfl (hp p)
  | day =>
    obtain ⟨n, hn⟩ := hx.day_number
    have hs : day.content x.fields o = .ok (.whole x.date.day) := rfl
    have hday := x.date.day_mem
    have hlast := (Gregorian.daysInMonth_mem x.date.year hmonth).2
    rw [hn] at hs
    rw [hn, Whole.toInt_number] at hday
    exact ⟨n, hs, .of_le 31 (by decide) (by omega)⟩
  | hour => exact ⟨_, rfl, .of_le 23 (by decide) x.time.hour_mem⟩
  | halfDayHour =>
    refine ⟨(x.time.hour + 23) % (12 : Nat) + 1, rfl, .of_le 12 (by decide) ?_⟩
    omega
  | dayOfYear =>
    have hj := x.date.isDate.dayOfYear_mem
    have hl := (Gregorian.yearLength_mem x.date.year).2
    refine ⟨_, x.fields_hasDate.dayOfYear _, .of_le 366 (by decide) ?_⟩
    rw [Whole.toInt_number, Whole.toInt_number]
    omega
  | month => exact ⟨_, rfl, .of_le 12 (by decide) (by omega)⟩
  | minute => exact ⟨_, rfl, .of_le 59 (by decide) x.time.minute_mem⟩
  | quarter =>
    refine ⟨Gregorian.quarter x.date.month, rfl, .of_le 4 (by decide) ?_⟩
    unfold Gregorian.quarter
    omega
  | second => exact ⟨_, rfl, .of_le 60 (by decide) x.time.second_mem⟩
  | weekday =>
    have hw := Gregorian.weekdayOfOrdinal_mem x.date.ordinal
    exact ⟨_, x.fields_hasDate.dayOfWeek _, .of_le 7 (by decide)
      ⟨Int.le_trans (by decide) hw.1, hw.2⟩⟩
  | yearOfCentury =>
    refine ⟨x.date.year % (100 : Nat), rfl, .of_le 99 (by decide) ?_⟩
    omega
  | year => exact ⟨_, rfl, .of_le 9999 (by decide) ⟨hx.year_nonneg, x.date.year_mem.2⟩⟩
  | _ => exact absurd hd (by decide)

theorem renderSection_tabular (hd : d.IsTabular) (hp : ∀ p, d ≠ .preferred p)
    (hx : x.date.IsTabular) (k : Nat) :
    ∃ t, renderSection x.fields o expand k d.bare = .ok (.text t) ∧ t.length = d.columns := by
  by_cases hc : d = percent
  · subst hc
    exact ⟨['%'], renderSection_percent k, rfl⟩
  · obtain ⟨hpad, hfill⟩ := filled_of_tabular hd hp hc
    obtain ⟨n, hn, hfits⟩ := exists_number hd hp hc hx o
    refine ⟨_, renderSection_whole hpad hn (hfits.isShort (columns_le hp)) k, ?_⟩
    rw [columns_eq hp] at hfits ⊢
    rw [hfill]
    exact hfits.length_padNumber

end Directive

def Section.columns (s : Section) : Nat :=
  (s.known?.map Directive.columns).getD 0

theorem Section.columns_bare (d : Directive) : d.bare.columns = d.columns := by
  rw [columns, d.known?_bare]
  rfl

def Piece.columns : Piece → Nat
  | literal _ => 1
  | directive s => s.columns

namespace Template

/-- The columns of some pieces of a template, one after the other. -/
def columns (pieces : List Piece) : Nat :=
  (pieces.map Piece.columns).sum

/-- The sections among the pieces have no modifiers and name directives of the given kind. -/
def HasOnly (allowed : Directive → Prop) (pieces : List Piece) : Prop :=
  ∀ s, Piece.directive s ∈ pieces → ∃ d : Directive, allowed d ∧ s = d.bare

/-- The pieces in front of a section are read alike when the template ends with them. -/
theorem read_write {t : Text} {xs ys : List Piece} (h : read t = xs ++ ys)
    (hx : ∀ s, Piece.directive s ∈ xs → s.directive ≠ none) : read (write xs) = xs := by
  induction xs generalizing t with
  | nil => rfl
  | cons piece xs ih =>
    have htail (s : Section) (hs : Piece.directive s ∈ xs) : s.directive ≠ none :=
      hx s (List.mem_cons_of_mem _ hs)
    cases t with
    | nil => exact absurd h (by simp [read, scan])
    | cons c t =>
      by_cases hc : c = '%'
      -- A section that names a directive ends with it, whatever is cut off behind.
      · subst hc
        have hr : read ('%' :: t) =
            .directive (Section.opened.read t).1 :: read (Section.opened.read t).2 :=
          scan_read rfl t
        rw [hr, List.cons_append] at h
        obtain ⟨hp, ht⟩ := List.cons.inj h
        subst hp
        have hg := (Section.grammatical_opened.read rfl t).1
        rw [write_cons, Piece.text, read_section hg (hx _ List.mem_cons_self), ih ht htail]
      · rw [read_literal hc, List.cons_append] at h
        obtain ⟨hp, ht⟩ := List.cons.inj h
        subst hp
        rw [write_cons, Piece.text, List.singleton_append, read_literal hc, ih ht htail]

end Template

section Joined

variable {f : Fields} {o : Options} {expand : Preferred → Outcome Text}

theorem joined_columns {pieces : List Piece}
    (h : ∀ s, Piece.directive s ∈ pieces → ∀ k, ∃ t,
      renderSection f o expand k s = .ok (.text t) ∧ t.length = s.columns) (k : Nat) :
    ∃ r, joined f o expand k pieces = .ok r ∧ r.length = Template.columns pieces := by
  induction pieces generalizing k with
  | nil => exact ⟨[], rfl, rfl⟩
  | cons piece rest ih =>
    have hr := ih fun s hs => h s (List.mem_cons_of_mem _ hs)
    cases piece with
    | literal c =>
      obtain ⟨r, hr, hl⟩ := hr (k + 1)
      refine ⟨c :: r, by rw [joined_literal, hr]; rfl, ?_⟩
      rw [List.length_cons, hl, Nat.add_comm]
      rfl
    | directive s =>
      obtain ⟨t, ht, hw⟩ := h s List.mem_cons_self k
      obtain ⟨r, hr, hl⟩ := hr (k + s.text.length)
      refine ⟨t ++ r, by rw [joined_text ht, hr]; rfl, ?_⟩
      rw [List.length_append, hw, hl]
      rfl

end Joined

namespace Template

variable {allowed : Directive → Prop} {pieces : List Piece}

theorem HasOnly.literal (c : Char) (h : HasOnly allowed pieces) :
    HasOnly allowed (.literal c :: pieces) :=
  fun s hs => h s (by simpa using hs)

theorem HasOnly.directive {d : Directive} (hd : allowed d) (h : HasOnly allowed pieces) :
    HasOnly allowed (.directive d.bare :: pieces) := by
  intro s hs
  rcases List.mem_cons.mp hs with he | hs
  · exact ⟨d, hd, Piece.directive.inj he⟩
  · exact h s hs

theorem HasOnly.nil : HasOnly allowed [] :=
  fun _ hs => absurd hs List.not_mem_nil

theorem hasOnly_default (p : Preferred) :
    HasOnly (fun d => d.IsTabular ∧ ∀ q, d ≠ .preferred q) (read (Options.default.template p)) := by
  let Shown (d : Directive) : Prop := d.IsTabular ∧ ∀ q, d ≠ .preferred q
  have hdate {rest : List Piece} (h : HasOnly Shown rest) : HasOnly Shown (datePieces ++ rest) :=
    .directive ⟨by decide, by simp⟩ <| .literal '-' <| .directive ⟨by decide, by simp⟩ <|
      .literal '-' <| .directive ⟨by decide, by simp⟩ h
  have htime : HasOnly Shown (timePieces.take 5) :=
    .directive ⟨by decide, by simp⟩ <| .literal ':' <| .directive ⟨by decide, by simp⟩ <|
      .literal ':' <| .directive ⟨by decide, by simp⟩ .nil
  cases p with
  | date => exact hdate .nil
  | time => exact htime
  | datetime => exact hdate (.literal ' ' htime)

theorem columns_default (p : Preferred) :
    columns (read (Options.default.template p)) = (Directive.preferred p).columns := by
  cases p <;> rfl

end Template

namespace DateTime

variable {x : DateTime}

theorem renderWithin_default (hx : x.date.IsTabular) (free : List Preferred) (p : Preferred) :
    ∃ t, renderWithin x.fields Options.default free (Options.default.template p) = .ok t ∧
      t.length = (Directive.preferred p).columns := by
  rw [renderWithin_eq, ← Template.columns_default]
  refine joined_columns (fun s hs k => ?_) 0
  obtain ⟨d, ⟨hd, hp⟩, rfl⟩ := Template.hasOnly_default p s hs
  rw [Section.columns_bare]
  exact Directive.renderSection_tabular hd hp hx k

theorem renderSection_columns {d : Directive} (hd : d.IsTabular) (hx : x.date.IsTabular) (k : Nat) :
    ∃ t, renderSection x.fields Options.default
        (expansion x.fields Options.default Preferred.all) k d.bare = .ok (.text t) ∧
      t.length = d.columns := by
  by_cases hp : ∃ p, d = .preferred p
  -- The template that is expanded refers to no other, so it does not matter which are still free.
  · obtain ⟨p, rfl⟩ := hp
    obtain ⟨t, ht, hl⟩ := renderWithin_default hx (Preferred.all.erase p) p
    have he : expansion x.fields Options.default Preferred.all p = .ok t := by
      rw [expansion, if_pos p.mem_all, ht]
    exact ⟨t, renderSection_preferred_ok he k, hl⟩
  · exact Directive.renderSection_tabular hd (fun p h => hp ⟨p, h⟩) hx k

theorem render_eq_joined (x : DateTime) (t : Text) :
    render (.text t) (.datetime x) Options.default =
      joined x.fields Options.default (expansion x.fields Options.default Preferred.all) 0
        (Template.read t) :=
  (render_eq_renderWithin rfl t).trans (renderWithin_eq _ _ _ _)

theorem joined_tabular {pieces : List Piece} (h : Template.HasOnly Directive.IsTabular pieces)
    (hx : x.date.IsTabular) (k : Nat) :
    ∃ r, joined x.fields Options.default (expansion x.fields Options.default Preferred.all) k
        pieces = .ok r ∧ r.length = Template.columns pieces := by
  refine joined_columns (fun s hs j => ?_) k
  obtain ⟨d, hd, rfl⟩ := h s hs
  rw [Section.columns_bare]
  exact renderSection_columns hd hx j

/-- A rendering shows a section from one column on and in so many columns: what stands there is what
the section is rendered as on its own, behind what the pieces in front of it are rendered as. -/
def ShowsAt (x : DateTime) (r : Text) (before : List Piece) (s : Section) (start width : Nat) :
    Prop :=
  ∃ l m n, r = l ++ (m ++ n) ∧ l.length = start ∧ m.length = width ∧
    render (.text (Template.write before)) (.datetime x) Options.default = .ok l ∧
    render (.text s.text) (.datetime x) Options.default = .ok m

theorem render_tabular {t : Text} (ht : Template.HasOnly Directive.IsTabular (Template.read t))
    (hx : x.date.IsTabular) :
    ∃ r, render (.text t) (.datetime x) Options.default = .ok r ∧
      r.length = Template.columns (Template.read t) ∧
      ∀ before s after, Template.read t = before ++ .directive s :: after →
        x.ShowsAt r before s (Template.columns before) s.columns := by
  obtain ⟨r, hr, hlen⟩ := joined_tabular ht hx 0
  refine ⟨r, (render_eq_joined x t).trans hr, hlen, fun before s after h => ?_⟩
  rw [h] at ht hr
  have hb : Template.HasOnly Directive.IsTabular before :=
    fun e he => ht e (List.mem_append_left _ he)
  obtain ⟨d, hd, rfl⟩ := ht s (List.mem_append_right _ List.mem_cons_self)
  have ha : Template.HasOnly Directive.IsTabular after :=
    fun e he => ht e (List.mem_append_right _ (List.mem_cons_of_mem _ he))
  obtain ⟨l, hl, hll⟩ := joined_tabular hb hx 0
  obtain ⟨m, hm, hml⟩ := renderSection_columns hd hx 0
  obtain ⟨n, hn, -⟩ := joined_tabular ha hx 0
  have hsplit := joined_append_ok.mpr
    ⟨l, _, hl, joined_append_ok.mpr ⟨m, n, joined_single hm, hn, rfl⟩, rfl⟩
  have hw : Template.read (Template.write before) = before := by
    refine Template.read_write h fun e he => ?_
    obtain ⟨d', -, rfl⟩ := hb e he
    exact Option.some_ne_none _
  refine ⟨l, m, n, Except.ok.inj (hr.symm.trans hsplit), hll, ?_, ?_, Directive.render_bare rfl hm⟩
  · rw [hml, Section.columns_bare]
  · rw [render_eq_joined, hw, hl]

end DateTime

/-- A text in which every section names a directive with columns and has no modifiers. -/
def Template.IsTabular (t : Text) : Prop :=
  HasOnly Directive.IsTabular (read t)

/-- Under the default options the renderings of two datetimes from year 0 on are equally long, and
every section of the template stands in the same columns of both. -/
theorem render_columns {t : Text} (ht : Template.IsTabular t) {a b : DateTime}
    (ha : a.date.IsTabular) (hb : b.date.IsTabular) :
    ∃ r r', render (.text t) (.datetime a) Options.default = .ok r ∧
      render (.text t) (.datetime b) Options.default = .ok r' ∧ r.length = r'.length ∧
      ∀ before s after, Template.read t = before ++ .directive s :: after →
        a.ShowsAt r before s (Template.columns before) s.columns ∧
          b.ShowsAt r' before s (Template.columns before) s.columns := by
  obtain ⟨r, hr, hl, hs⟩ := DateTime.render_tabular ht ha
  obtain ⟨r', hr', hl', hs'⟩ := DateTime.render_tabular ht hb
  exact ⟨r, r', hr, hr', hl.trans hl'.symm,
    fun before s after h => ⟨hs before s after h, hs' before s after h⟩⟩

/-- The first and the last second of the years from 0 on. The quarter stands in the twelfth column,
behind a date that the template does not spell out. -/
theorem render_columns_first_and_last :
    let a : DateTime := ⟨⟨0, 1, .number 1, by decide, by decide, by decide⟩,
      ⟨0, 0, 0, 0, 0, by decide, by decide, by decide, by decide, by decide⟩, none⟩
    let b : DateTime := ⟨⟨9999, 12, .number 31, by decide, by decide, by decide⟩,
      ⟨23, 59, 60, 0, 0, by decide, by decide, by decide, by decide, by decide⟩, none⟩
    let t := "%x %q|%I%%".toList
    let before : List Piece := [.directive (Directive.preferred .date).bare, .literal ' ']
    (Template.IsTabular t ∧ a.date.IsTabular ∧ b.date.IsTabular) ∧
      ∃ r r', render (.text t) (.datetime a) Options.default = .ok r ∧
        render (.text t) (.datetime b) Options.default = .ok r' ∧ r.length = r'.length ∧
        a.ShowsAt r before Directive.quarter.bare 11 1 ∧
          b.ShowsAt r' before Directive.quarter.bare 11 1 := by
  intro a b t before
  have ht : Template.IsTabular t :=
    .directive (d := .preferred .date) (by decide) <| .literal ' ' <|
      .directive (d := .quarter) (by decide) <| .literal '|' <|
      .directive (d := .halfDayHour) (by decide) <| .directive (d := .percent) (by decide) .nil
  have ha : a.date.IsTabular := ⟨by decide, 1, rfl⟩
  have hb : b.date.IsTabular := ⟨by decide, 31, rfl⟩
  obtain ⟨r, r', hr, hr', hl, hs⟩ := render_columns ht ha hb
  exact ⟨⟨ht, ha, hb⟩, r, r', hr, hr', hl, hs before Directive.quarter.bare _ rfl⟩

end CalendarText
