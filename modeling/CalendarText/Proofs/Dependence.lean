import CalendarText.Proofs.References

/-! What a rendering depends on. A template reaches its own sections and those of the templates it
mentions, and two runs that agree on what the reached sections read have the same outcome. Only a
missing field is reported in the name of each run's own value. -/

namespace CalendarText

variable {α β : Type}

/-- The fields that a directive looks at. -/
def Directive.reads : Directive → List Field
  | offset => [.utcOffset, .stdOffset]
  | zoneName => [.zoneName]
  | d => d.needs

/-- The options agree on what a directive takes from them. Short names without a source of their own
are taken from the full names. -/
def Directive.SameOptions (o o' : Options) : Directive → Prop
  | preferred p => o.template p = o'.template p
  | weekdayName => o.weekdayNames = o'.weekdayNames
  | monthName => o.monthNames = o'.monthNames
  | shortWeekdayName => o.shortWeekdayNames = o'.shortWeekdayNames ∧
      (o.shortWeekdayNames = none →
        o.weekdayNames = o'.weekdayNames ∧ o.shortLength = o'.shortLength)
  | shortMonthName => o.shortMonthNames = o'.shortMonthNames ∧
      (o.shortMonthNames = none → o.monthNames = o'.monthNames ∧ o.shortLength = o'.shortLength)
  | upperHalf | lowerHalf => o.halfNames = o'.halfNames
  | _ => True

def Section.SameOptions (s : Section) (o o' : Options) : Prop :=
  match s.known? with
  | none => o.passesUnknown = o'.passesUnknown
  | some d => d.SameOptions o o'

theorem Section.sameOptions_refl (s : Section) (o : Options) : s.SameOptions o o := by
  unfold SameOptions
  cases s.known? with
  | none => rfl
  | some d => cases d <;> simp [Directive.SameOptions]

theorem Section.SameOptions.known {s : Section} {o o' : Options} (h : s.SameOptions o o')
    {d : Directive} (hd : s.known? = some d) : d.SameOptions o o' := by
  rwa [Section.SameOptions, hd] at h

theorem Section.SameOptions.unknown {s : Section} {o o' : Options} (h : s.SameOptions o o')
    (hs : s.known? = none) : o.passesUnknown = o'.passesUnknown := by
  rwa [Section.SameOptions, hs] at h

namespace Options

/-- The section stands in the template or in one that the template leads to. -/
inductive Reaches (o : Options) : Text → Section → Prop where
  | here {t : Text} {s : Section} (h : Piece.directive s ∈ Template.read t) : Reaches o t s
  | through {t : Text} {s : Section} {p : Preferred} (h : Template.Mentions t p)
      (hs : Reaches o (o.template p) s) : Reaches o t s

def Needs (o : Options) (t : Text) (x : Field) : Prop :=
  ∃ s d, o.Reaches t s ∧ s.known? = some d ∧ x ∈ d.reads

end Options

/-- The section names a directive from the lists. -/
def Section.isWithin (s : Section) (ps : List Preferred) (ds : List Directive) : Bool :=
  match s.known? with
  | none => false
  | some (.preferred p) => p ∈ ps
  | some d => d ∈ ds

namespace Options

/-- A check of what a template reaches: it and the templates of the preferred directives in a list
name no other directives than those in the lists. -/
def staysWithin (o : Options) (ps : List Preferred) (ds : List Directive) (t : Text) : Bool :=
  (t :: ps.map o.template).all fun u => (Template.sections u).all fun x => x.2.isWithin ps ds

section StaysWithin

variable {o o' : Options} {ps : List Preferred} {ds : List Directive} {t : Text}

theorem isWithin_of_reaches (h : o.staysWithin ps ds t) {s : Section} (hs : o.Reaches t s) :
    s.isWithin ps ds := by
  have step (u : Text) (hu : u ∈ t :: ps.map o.template) (s : Section)
      (hm : Piece.directive s ∈ Template.read u) : s.isWithin ps ds := by
    obtain ⟨k, hk⟩ := Template.exists_mem_sections hm
    exact List.all_eq_true.mp (List.all_eq_true.mp h u hu) (k, s) hk
  have walk {u : Text} {s : Section} (hs : o.Reaches u s) (hu : u ∈ t :: ps.map o.template) :
      s.isWithin ps ds := by
    induction hs with
    | here hm => exact step _ hu _ hm
    | @through u s p hm _ ih =>
      obtain ⟨e, he, hl⟩ := hm
      have hp := step u hu e he
      rw [Section.isWithin, Section.known?_preferred_iff.mpr hl] at hp
      exact ih (List.mem_cons_of_mem _ (List.mem_map_of_mem (of_decide_eq_true hp)))
  exact walk hs List.mem_cons_self

theorem reads_of_needs (h : o.staysWithin ps ds t) {x : Field} (hx : o.Needs t x) :
    ∃ d ∈ ds, x ∈ d.reads := by
  obtain ⟨s, d, hs, hd, hx⟩ := hx
  have hw := isWithin_of_reaches h hs
  rw [Section.isWithin, hd] at hw
  cases d with
  | preferred p => simp [Directive.reads, Directive.needs] at hx
  | _ => exact ⟨_, of_decide_eq_true hw, hx⟩

theorem sameOptions_of_reaches (h : o.staysWithin ps ds t)
    (hp : ∀ p ∈ ps, o.template p = o'.template p) (hd : ∀ d ∈ ds, d.SameOptions o o')
    {s : Section} (hs : o.Reaches t s) : s.SameOptions o o' := by
  have hw := isWithin_of_reaches h hs
  rw [Section.isWithin] at hw
  rw [Section.SameOptions]
  cases hk : s.known? with
  | none => simp [hk] at hw
  | some d =>
    rw [hk] at hw
    cases d with
    | preferred p => exact hp p (of_decide_eq_true hw)
    | _ => exact hd _ (of_decide_eq_true hw)

end StaysWithin

end Options

/-- The outcomes are the same, or both report the same field as missing, each from its own kind of
value. -/
def Alike (needed : Field → Prop) (f g : Fields) (x y : Outcome α) : Prop :=
  x = y ∨ ∃ field tag, needed field ∧ f.value? field = none ∧ g.value? field = none ∧
    x = .error (.missingField (.text field.name) f.kind tag) ∧
    y = .error (.missingField (.text field.name) g.kind tag)

variable {needed : Field → Prop} {f g : Fields} {o o' : Options}

theorem alike_congruent : Congruent (Alike needed f g) where
  refl _ := .inl rfl
  bind {_ _ x _ _ _} h hk := by
    rcases h with rfl | ⟨field, tag, hn, hf, hg, rfl, rfl⟩
    · cases x with
      | error e => exact .inl rfl
      | ok a => exact hk a
    · exact .inr ⟨field, tag, hn, hf, hg, rfl, rfl⟩

theorem Alike.refl (x : Outcome α) : Alike needed f g x x :=
  alike_congruent.refl x

theorem Alike.bind {x y : Outcome α} {k l : α → Outcome β} (h : Alike needed f g x y)
    (hk : ∀ a, Alike needed f g (k a) (l a)) : Alike needed f g (x >>= k) (y >>= l) :=
  alike_congruent.bind h hk

theorem Alike.map {x y : Outcome α} (h : Alike needed f g x y) (k : α → Outcome β) :
    Alike needed f g (x >>= k) (y >>= k) :=
  alike_congruent.map h k

theorem Options.shortMonths_congr (h : o.shortMonthNames = o'.shortMonthNames)
    (hn : o.shortMonthNames = none → o.monthNames = o'.monthNames ∧ o.shortLength = o'.shortLength) :
    o.shortMonths = o'.shortMonths := by
  cases hs : o.shortMonthNames with
  | some source => simp only [shortMonths, ← h, hs]
  | none =>
    obtain ⟨hm, hl⟩ := hn hs
    simp only [shortMonths, ← h, hs, months, hm, hl]

theorem Options.shortWeekdays_congr (h : o.shortWeekdayNames = o'.shortWeekdayNames)
    (hn : o.shortWeekdayNames = none →
      o.weekdayNames = o'.weekdayNames ∧ o.shortLength = o'.shortLength) :
    o.shortWeekdays = o'.shortWeekdays := by
  cases hs : o.shortWeekdayNames with
  | some source => simp only [shortWeekdays, ← h, hs]
  | none =>
    obtain ⟨hw, hl⟩ := hn hs
    simp only [shortWeekdays, ← h, hs, weekdays, hw, hl]

section Directives

variable (h : ∀ x, needed x → f.value? x = g.value? x)

include h

theorem require_alike {x : Field} (hx : needed x) (tag : Datum) :
    Alike needed f g (f.require x tag) (g.require x tag) := by
  have he := h x hx
  cases hf : f.value? x with
  | some d => exact .inl (by rw [Fields.require, Fields.require, ← he, hf])
  | none =>
    refine .inr ⟨x, tag, hx, hf, he.symm.trans hf, ?_, ?_⟩
    · rw [Fields.require, hf]
    · rw [Fields.require, ← he, hf]

theorem require_date_alike (hd : ∀ x ∈ [Field.year, .month, .day], needed x)
    (k : Datum → Datum → Datum → Outcome β) (tag : Datum) :
    Alike needed f g
      (do k (← f.require .year tag) (← f.require .month tag) (← f.require .day tag))
      (do k (← g.require .year tag) (← g.require .month tag) (← g.require .day tag)) :=
  (require_alike h (hd .year (by simp)) tag).bind fun _ =>
    (require_alike h (hd .month (by simp)) tag).bind fun _ =>
      (require_alike h (hd .day (by simp)) tag).map _

theorem dayOfWeek_alike (hd : ∀ x ∈ [Field.year, .month, .day], needed x) (tag : Datum) :
    Alike needed f g (f.dayOfWeek tag) (g.dayOfWeek tag) :=
  require_date_alike h hd Gregorian.Unchecked.dayOfWeek tag

theorem halfText_alike (hh : needed .hour) (ho : o.halfNames = o'.halfNames) (d : Directive) :
    Alike needed f g (d.halfText f o) (d.halfText g o') := by
  have hn (m : Meridiem) : o.halfName m = o'.halfName m := by
    simp only [Options.halfName, ho]
  simp only [Directive.halfText, hn]
  exact (require_alike h hh d.tag).map _

theorem content_alike {d : Directive} (hd : ∀ x ∈ d.reads, needed x) (ho : d.SameOptions o o') :
    Alike needed f g (d.content f o) (d.content g o') := by
  have field {x : Field} (hx : x ∈ d.reads) (k : Datum → Outcome Datum) :
      Alike needed f g (f.require x d.tag >>= k) (g.require x d.tag >>= k) :=
    (require_alike h (hd x hx) d.tag).map k
  cases d with
  | shortWeekdayName =>
    have hn : o.shortWeekdays = o'.shortWeekdays := Options.shortWeekdays_congr ho.1 ho.2
    simp only [Directive.content, hn]
    exact (dayOfWeek_alike h hd _).map _
  | weekdayName =>
    have hn : o.weekdays = o'.weekdays := by rw [Options.weekdays, Options.weekdays, ho]
    simp only [Directive.content, hn]
    exact (dayOfWeek_alike h hd _).map _
  | shortMonthName =>
    have hn : o.shortMonths = o'.shortMonths := Options.shortMonths_congr ho.1 ho.2
    simp only [Directive.content, hn]
    exact field (List.mem_singleton_self _) _
  | monthName =>
    have hn : o.months = o'.months := by rw [Options.months, Options.months, ho]
    simp only [Directive.content, hn]
    exact field (List.mem_singleton_self _) _
  | upperHalf | lowerHalf =>
    exact (halfText_alike h (hd _ (List.mem_singleton_self _)) ho _).map _
  | weekday => exact dayOfWeek_alike h hd _
  | dayOfYear => exact require_date_alike h hd Gregorian.Unchecked.dayOfYear _
  | quarter | halfDayHour | yearOfCentury => exact field (List.mem_singleton_self _) _
  | percent | preferred _ | fraction | offset | zoneName => exact .refl _
  | day | hour | month | minute | second | year =>
    exact require_alike h (hd _ (List.mem_singleton_self _)) _

theorem format_alike {d : Directive} (hd : ∀ x ∈ d.reads, needed x) (ho : d.SameOptions o o')
    (m : Modifiers) : Alike needed f g (d.format f o m) (d.format g o' m) := by
  cases d with
  | preferred p => exact .refl _
  | fraction =>
    have hf : Alike needed f g (f.fraction Directive.fraction.tag)
        (g.fraction Directive.fraction.tag) :=
      (require_alike h (hd .microsecond (List.mem_singleton_self _)) _).map _
    exact hf.map _
  | offset =>
    have hu : needed .utcOffset := hd _ (by simp [Directive.reads])
    have hs : needed .stdOffset := hd _ (by simp [Directive.reads])
    have ha : f.isAware = g.isAware := by rw [Fields.isAware, Fields.isAware, h _ hu, h _ hs]
    simp only [Directive.format, Directive.formatItem, ha]
    split
    · exact (require_alike h hu _).bind fun _ => (require_alike h hs _).map _
    · exact .refl _
  | zoneName =>
    have hz : f.value? .zoneName = g.value? .zoneName := h _ (hd _ (by simp [Directive.reads]))
    simp only [Directive.format, Directive.formatItem, hz]
    exact .refl _
  | _ =>
    rw [Directive.format_padded (by trivial), Directive.format_padded (by trivial)]
    exact (content_alike h hd ho).map _

end Directives

section Pieces

variable {expand expand' : Preferred → Outcome Text}

theorem renderSection_alike (h : ∀ x, needed x → f.value? x = g.value? x) {s : Section}
    (hn : ∀ d, s.known? = some d → ∀ x ∈ d.reads, needed x) (ho : s.SameOptions o o')
    (he : ∀ p, s.known? = some (.preferred p) → Alike needed f g (expand p) (expand' p)) (k : Nat) :
    Alike needed f g (renderSection f o expand k s) (renderSection g o' expand' k s) := by
  rcases s.known?_cases with hk | ⟨p, hk⟩ | ⟨d, hk, hd⟩
  · rw [renderSection_malformed hk, renderSection_malformed hk, ho.unknown hk]
    exact .refl _
  · rw [renderSection_preferred hk, renderSection_preferred hk]
    exact (he p hk).map _
  · rw [renderSection_known hk hd, renderSection_known hk hd]
    exact format_alike h (hn d hk) (ho.known hk) _

end Pieces

theorem renderWithin_alike (h : ∀ x, needed x → f.value? x = g.value? x) (free : List Preferred)
    {t : Text} (hn : ∀ x, o.Needs t x → needed x) (ho : ∀ s, o.Reaches t s → s.SameOptions o o') :
    Alike needed f g (renderWithin f o free t) (renderWithin g o' free t) := by
  -- What is reached through an expansion is reached from the template that mentions it.
  induction free, t using renderWithin.induct f o with
  | case1 free t ih =>
    rw [renderWithin_eq, renderWithin_eq]
    refine (renderPieces_rel alike_congruent (fun k s hs => ?_) 0).map _
    have ht := ho s (.here hs)
    refine renderSection_alike h (fun d hk x hx => hn x ⟨s, d, .here hs, hk, hx⟩) ht ?_ k
    intro p hk
    have hm : Template.Mentions t p := ⟨s, hs, Section.known?_preferred_iff.mp hk⟩
    have hp : o.template p = o'.template p := ht.known hk
    rw [expansion, expansion, ← hp]
    split
    · refine ih p ‹_› (fun x hx => ?_) (fun s hr => ho s (.through hm hr))
      obtain ⟨s, d, hr, hd⟩ := hx
      exact hn x ⟨s, d, .through hm hr, hd⟩
    · exact .refl _

theorem Alike.eq_of_present {x y : Outcome α} (h : Alike needed f g x y)
    (hp : ∀ z, needed z → (f.value? z).isSome) : x = y := by
  rcases h with rfl | ⟨field, tag, hn, hf, -⟩
  · rfl
  · exact absurd (hp field hn) (by simp [hf])

theorem Alike.eq_of_kind {x y : Outcome α} (h : Alike needed f g x y) (hk : f.kind = g.kind) :
    x = y := by
  rcases h with rfl | ⟨field, tag, -, -, -, rfl, rfl⟩
  · rfl
  · rw [hk]

theorem lookup_eq_some_iff_mem {entries : List (Text × Datum)} {k : Text} {d : Datum}
    (hn : (entries.map Prod.fst).Nodup) : entries.lookup k = some d ↔ (k, d) ∈ entries := by
  induction entries with
  | nil => simp
  | cons entry rest ih =>
    obtain ⟨key, value⟩ := entry
    obtain ⟨hk, hr⟩ := List.nodup_cons.mp hn
    by_cases h : k = key
    · subst h
      have hm : (k, d) ∉ rest := fun hm => hk (List.mem_map.mpr ⟨_, hm, rfl⟩)
      simp [hm, eq_comm]
    · rw [List.lookup_cons, beq_false_of_ne h, ih hr]
      simp [h]

/-- Entries under other names and the order of entries make no difference to a name. -/
theorem lookup_perm_append {entries extra entries' : List (Text × Datum)}
    (hn : (entries'.map Prod.fst).Nodup) (hp : entries'.Perm (entries ++ extra)) {k : Text}
    (hk : k ∉ extra.map Prod.fst) : entries'.lookup k = entries.lookup k := by
  have ha : ((entries ++ extra).map Prod.fst).Nodup := (hp.map Prod.fst).nodup_iff.mp hn
  have he : (entries.map Prod.fst).Nodup := by
    rw [List.map_append] at ha
    exact (List.nodup_append.mp ha).1
  apply Option.ext
  intro d
  have hm : (k, d) ∉ extra := fun hm => hk (List.mem_map_of_mem hm)
  rw [lookup_eq_some_iff_mem hn, lookup_eq_some_iff_mem he, hp.mem_iff, List.mem_append]
  simp [hm]

/-- A rendering depends on nothing but what its template reaches. Two runs that agree on the needed
fields and on what the reached sections take from the options have the same outcome, up to the kind
of value that misses a field. So a datetime can stand for its date and for its time of day, and
entries without a directive that reads them do not matter, nor does the order of entries. -/
theorem render_dependence (o : Options) (t : Text) :
    (∀ (o' : Options) (v w : Value) (f g : Fields), Fields.ofValue v = .ok f →
      Fields.ofValue w = .ok g → (∀ x, o.Needs t x → f.value? x = g.value? x) →
      (∀ s, o.Reaches t s → s.SameOptions o o') →
      Alike (o.Needs t) f g (render (.text t) v o) (render (.text t) w o')) ∧
    (∀ x : DateTime, (∀ y, o.Needs t y → y = .year ∨ y = .month ∨ y = .day) →
      render (.text t) (.datetime x) o = render (.text t) (.date x.date) o) ∧
    (∀ x : DateTime,
      (∀ y, o.Needs t y → y = .hour ∨ y = .minute ∨ y = .second ∨ y = .microsecond) →
      render (.text t) (.datetime x) o = render (.text t) (.time x.time) o) ∧
    ∀ entries extra entries' : List (Text × Datum), (entries'.map Prod.fst).Nodup →
      entries'.Perm (entries ++ extra) →
      (∀ y, o.Needs t y → y.name ∉ extra.map Prod.fst) →
      render (.text t) (.datum (.record entries')) o =
        render (.text t) (.datum (.record entries)) o := by
  have runs (o' : Options) (v w : Value) (f g : Fields) (hf : Fields.ofValue v = .ok f)
      (hg : Fields.ofValue w = .ok g) (h : ∀ x, o.Needs t x → f.value? x = g.value? x)
      (ho : ∀ s, o.Reaches t s → s.SameOptions o o') :
      Alike (o.Needs t) f g (render (.text t) v o) (render (.text t) w o') := by
    rw [render_eq_renderWithin hf, render_eq_renderWithin hg]
    exact renderWithin_alike h _ (fun _ hx => hx) ho
  have ho (s : Section) : s.SameOptions o o := s.sameOptions_refl o
  refine ⟨runs, fun x hn => ?_, fun x hn => ?_, fun entries extra entries' hk hp hn => ?_⟩
  · refine (runs o (.datetime x) (.date x.date) _ _ rfl rfl ?_ fun s _ => ho s).eq_of_present ?_
    · intro y hy
      rcases hn y hy with rfl | rfl | rfl <;> rfl
    · intro y hy
      rcases hn y hy with rfl | rfl | rfl <;> rfl
  · refine (runs o (.datetime x) (.time x.time) _ _ rfl rfl ?_ fun s _ => ho s).eq_of_present ?_
    · intro y hy
      rcases hn y hy with rfl | rfl | rfl | rfl <;> rfl
    · intro y hy
      rcases hn y hy with rfl | rfl | rfl | rfl <;> rfl
  · refine (runs o (.datum (.record entries')) (.datum (.record entries)) _ _ rfl rfl ?_
      fun s _ => ho s).eq_of_kind rfl
    intro y hy
    exact lookup_perm_append hk hp (hn y hy)

/-- The date template takes short month names from the full ones. A datetime and entries with another
hour agree on the date, and options with other weekday names agree on all that is reached. -/
theorem render_dependence_date :
    let x : DateTime := ⟨⟨2019, 8, .number 26, by decide, by decide, by decide⟩,
      ⟨7, 5, 9, 0, 0, by decide, by decide, by decide, by decide, by decide⟩, some .utc⟩
    let o : Options := { Options.default with preferredDate := "%d. %b".toList }
    let o' : Options := { o with
      preferredDateTime := "%J".toList
      weekdayNames := .rule fun _ => .error .wrongKind }
    let t : Text := "%x (%u)".toList
    let entries : List (Text × Datum) :=
      [("year".toList, .ofInt 2019), ("month".toList, .ofInt 8), ("day".toList, .ofInt 26)]
    let extra : List (Text × Datum) := [("hour".toList, .null)]
    (∀ y, o.Needs t y → y = .year ∨ y = .month ∨ y = .day) ∧
      (∀ y, o.Needs "%X".toList y → y = .hour ∨ y = .minute ∨ y = .second ∨ y = .microsecond) ∧
      (∀ s, o.Reaches t s → s.SameOptions o o') ∧
      (∀ f g, Fields.ofValue (.datetime x) = .ok f →
        Fields.ofValue (.datum (.record entries)) = .ok g → Alike (o.Needs t) f g
          (render (.text t) (.datetime x) o) (render (.text t) (.datum (.record entries)) o')) ∧
      render (.text t) (.datetime x) o = render (.text t) (.date x.date) o ∧
      render (.text "%X".toList) (.datetime x) o = render (.text "%X".toList) (.time x.time) o ∧
      render (.text t) (.datum (.record (extra ++ entries))) o =
        render (.text t) (.datum (.record entries)) o := by
  intro x o o' t entries extra
  have ht : o.staysWithin [.date] [.day, .shortMonthName, .weekday] t := by decide
  have hu : o.staysWithin [.time] [.hour, .minute, .second] "%X".toList := by decide
  have hd (y : Field) (hy : o.Needs t y) : y = .year ∨ y = .month ∨ y = .day := by
    obtain ⟨d, hd, hy⟩ := Options.reads_of_needs ht hy
    simp only [List.mem_cons, List.not_mem_nil, or_false] at hd
    rcases hd with rfl | rfl | rfl <;> simp [Directive.reads, Directive.needs] at hy <;> simp [hy]
  have hh (y : Field) (hy : o.Needs "%X".toList y) :
      y = .hour ∨ y = .minute ∨ y = .second ∨ y = .microsecond := by
    obtain ⟨d, hd, hy⟩ := Options.reads_of_needs hu hy
    simp only [List.mem_cons, List.not_mem_nil, or_false] at hd
    rcases hd with rfl | rfl | rfl <;> simp [Directive.reads, Directive.needs] at hy <;> simp [hy]
  have ho (s : Section) (hs : o.Reaches t s) : s.SameOptions o o' := by
    refine Options.sameOptions_of_reaches ht ?_ ?_ hs
    · rintro p hp
      rw [List.mem_singleton.mp hp]
      rfl
    · intro d hd
      simp only [List.mem_cons, List.not_mem_nil, or_false] at hd
      rcases hd with rfl | rfl | rfl
      · trivial
      · exact ⟨rfl, fun _ => ⟨rfl, rfl⟩⟩
      · trivial
  obtain ⟨hr, hdate, -, hentries⟩ := render_dependence o t
  obtain ⟨-, -, htime, -⟩ := render_dependence o "%X".toList
  refine ⟨hd, hh, ho, fun f g hf hg => ?_, hdate x hd, htime x hh, ?_⟩
  · refine hr o' _ _ f g hf hg (fun y hy => ?_) ho
    obtain rfl := Except.ok.inj hf
    obtain rfl := Except.ok.inj hg
    rcases hd y hy with rfl | rfl | rfl <;> rfl
  · refine hentries entries extra _ (by decide) List.perm_append_comm fun y hy => ?_
    rcases hd y hy with rfl | rfl | rfl <;> decide

end CalendarText
