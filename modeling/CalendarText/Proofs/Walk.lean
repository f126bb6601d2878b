import CalendarText.Proofs.Joining
import CalendarText.Proofs.Requirements

/-! The walk through a template and the templates it expands. Sections are met from left to right,
and a preferred directive is followed into its own template before the next section. Rendering
fails exactly when some section on the walk does, and it fails as the first of these. -/

namespace CalendarText

/-- A section met on a walk: the template it stands in, its position there, and the preferred
directives that are being expanded around it, the innermost first. -/
structure Visit where
  template : Text
  position : Nat
  written : Section
  around : List Preferred

theorem filter_not_mem_cons_lt {p : Preferred} {around : List Preferred} (h : p ∉ around) :
    (Preferred.all.filter (· ∉ p :: around)).length <
      (Preferred.all.filter (· ∉ around)).length := by
  have hs : Preferred.all.filter (· ∉ p :: around) =
      (Preferred.all.filter (· ∉ around)).filter (· ≠ p) := by
    rw [List.filter_filter]
    exact List.filter_congr (by simp)
  rw [hs]
  exact List.length_filter_lt_length_iff_exists.mpr
    ⟨p, List.mem_filter.mpr ⟨p.mem_all, by simpa using h⟩, by simp⟩

/-- The walk through a template. A directive that is already being expanded is met, but not
followed again. -/
def walk (o : Options) (around : List Preferred) (t : Text) : List Visit :=
  (Template.sections t).flatMap fun x =>
    ⟨t, x.1, x.2, around⟩ :: match x.2.known? with
      | some (.preferred p) => if p ∈ around then [] else walk o (p :: around) (o.template p)
      | _ => []
termination_by (Preferred.all.filter (· ∉ around)).length
decreasing_by exact filter_not_mem_cons_lt ‹_›

def walkSection (o : Options) (around : List Preferred) (t : Text) (position : Nat)
    (s : Section) : List Visit :=
  ⟨t, position, s, around⟩ :: match s.known? with
    | some (.preferred p) => if p ∈ around then [] else walk o (p :: around) (o.template p)
    | _ => []

theorem walk_eq (o : Options) (around : List Preferred) (t : Text) :
    walk o around t =
      (Template.sections t).flatMap fun x => walkSection o around t x.1 x.2 := by
  rw [walk]
  rfl

/-- How a section fails where it is met, if it does. -/
def Visit.fault? (x : Visit) (f : Fields) (o : Options) : Option Failure :=
  match x.written.known? with
  | none =>
    if o.passesUnknown then none
    else some (.malformed x.written.fault x.written.text x.position)
  | some (.preferred p) => if p ∈ x.around then some (.cyclic p) else none
  | some d => f.missing? d.needs d.tag

theorem findSome?_flatMap {α β γ : Type} (xs : List α) (g : α → List β) (h : β → Option γ) :
    (xs.flatMap g).findSome? h = xs.findSome? fun x => (g x).findSome? h := by
  induction xs with
  | nil => rfl
  | cons x xs ih =>
    rw [List.flatMap_cons, List.findSome?_append, ih, List.findSome?_cons]
    cases (g x).findSome? h <;> rfl

variable {f : Fields} {o : Options}

def walkFault? (f : Fields) (o : Options) (around : List Preferred) (t : Text) (position : Nat)
    (s : Section) : Option Failure :=
  (walkSection o around t position s).findSome? (·.fault? f o)

theorem findSome?_walk (f : Fields) (o : Options) (around : List Preferred) (t : Text) :
    (walk o around t).findSome? (·.fault? f o) =
      (Template.sections t).findSome? fun x => walkFault? f o around t x.1 x.2 := by
  rw [walk_eq, findSome?_flatMap]
  rfl

theorem walkFault?_malformed {s : Section} (hs : s.known? = none) (around : List Preferred)
    (t : Text) (k : Nat) :
    walkFault? f o around t k s =
      if o.passesUnknown then none else some (.malformed s.fault s.text k) := by
  cases hp : o.passesUnknown <;> simp [walkFault?, walkSection, Visit.fault?, hs, hp]

theorem walkFault?_preferred {s : Section} {p : Preferred} (hs : s.known? = some (.preferred p))
    (around : List Preferred) (t : Text) (k : Nat) :
    walkFault? f o around t k s =
      if p ∈ around then some (.cyclic p)
      else (walk o (p :: around) (o.template p)).findSome? (·.fault? f o) := by
  by_cases hp : p ∈ around <;> simp [walkFault?, walkSection, Visit.fault?, hs, hp]

theorem walkFault?_known {s : Section} {d : Directive} (hs : s.known? = some d)
    (hd : ∀ p, d ≠ .preferred p) (around : List Preferred) (t : Text) (k : Nat) :
    walkFault? f o around t k s = f.missing? d.needs d.tag := by
  cases d with
  | preferred p => exact absurd rfl (hd p)
  | _ => simp only [walkFault?, walkSection, Visit.fault?, hs, List.findSome?_singleton]

/-- The directives that may still be expanded are those that are not being expanded around. -/
theorem failure?_renderWithin (hf : f.Sound) (ho : o.HasTexts) {free : List Preferred}
    (around : List Preferred) (hn : free.Nodup) (hfree : ∀ p, p ∈ free ↔ p ∉ around) (t : Text) :
    failure? (renderWithin f o free t) = (walk o around t).findSome? (·.fault? f o) := by
  -- An expansion moves its directive from the free ones to those around.
  induction free, t using renderWithin.induct f o generalizing around with
  | case1 free t ih =>
    rw [renderWithin_eq, findSome?_walk]
    refine failure?_joined (walkFault? f o around t) (fun j s _ => ?_) 0
    rcases s.known?_cases with hs | ⟨p, hs⟩ | ⟨d, hs, hd⟩
    · rw [renderSection_malformed hs, walkFault?_malformed hs]
      by_cases hp : o.passesUnknown
      · simp [hp, Settles, Datum.IsText]
      · simp [hp, Settles]
    · have he := renderSection_preferred_settles hs f o (expansion f o free) j
      rw [walkFault?_preferred hs]
      by_cases hp : p ∈ around
      · have hx : expansion f o free p = .error (.cyclic p) := by simp [expansion, hfree, hp]
        simpa only [hx, failure?, hp, if_true] using he
      · have hm := (hfree p).mpr hp
        have hx : expansion f o free p = renderWithin f o (free.erase p) (o.template p) := by
          simp [expansion, hm]
        have hi := ih p hm (p :: around) (hn.erase p)
          (fun q => by simp [hn.mem_erase_iff, hfree q])
        simpa only [hx, hi, hp, if_false] using he
    · rw [renderSection_known hs hd, walkFault?_known hs hd]
      exact Directive.format_settles hf ho hd _

/-- A visited section stands at its position in the template that was asked for, or in that of the
directive expanded last. -/
def Visit.StandsIn (x : Visit) (o : Options) (t : Text) : Prop :=
  x.template = (match x.around with
    | [] => t
    | p :: _ => o.template p) ∧
  ∃ before after, x.template = before ++ x.written.text ++ after ∧ before.length = x.position

theorem mem_walk (o : Options) (around : List Preferred) (t : Text) :
    ∀ x ∈ walk o around t, (x.position, x.written) ∈ Template.sections x.template ∧
      (x.around = around ∧ x.template = t ∨
        ∃ p rest, x.around = p :: rest ∧ x.template = o.template p) := by
  induction around, t using walk.induct o with
  | case1 around t ih =>
    intro x hx
    rw [walk_eq, List.mem_flatMap] at hx
    obtain ⟨y, hy, hx⟩ := hx
    rcases List.mem_cons.mp hx with rfl | hx
    · exact ⟨hy, .inl ⟨rfl, rfl⟩⟩
    · split at hx
      · rename_i p _
        split at hx
        · simp at hx
        · rename_i hp
          obtain ⟨hs, ⟨ha, ht⟩ | hd⟩ := ih p hp x hx
          · exact ⟨hs, .inr ⟨p, around, ha, ht⟩⟩
          · exact ⟨hs, .inr hd⟩
      · simp at hx

theorem walk_standsIn (o : Options) (t : Text) : ∀ x ∈ walk o [] t, x.StandsIn o t := by
  intro x hx
  obtain ⟨hs, hd⟩ := mem_walk o [] t x hx
  refine ⟨?_, Template.sections_split hs⟩
  rcases hd with ⟨ha, ht⟩ | ⟨p, rest, ha, ht⟩ <;> rw [ha, ht]

/-- A date, a time or a datetime under names that are texts is rendered unless some section on the
walk fails, and the first section that does settles the failure. -/
theorem render_first_failure {v : Value} (hv : v.IsCalendar) {o : Options} (ho : o.HasTexts)
    (t : Text) :
    ∃ f, Fields.ofValue v = .ok f ∧ f.kind = .text v.kind ∧
      ((∃ r, render (.text t) v o = .ok r) ↔ ∀ x ∈ walk o [] t, x.fault? f o = none) ∧
      (∀ e, render (.text t) v o = .error e ↔
        ∃ before x after, walk o [] t = before ++ x :: after ∧ x.fault? f o = some e ∧
          ∀ y ∈ before, y.fault? f o = none) ∧
      ∀ x ∈ walk o [] t, x.StandsIn o t := by
  obtain ⟨f, hf, hk, hs⟩ := Fields.ofValue_calendar hv
  have hw := failure?_renderWithin hs ho [] Preferred.nodup_all
    (fun p => by simp [p.mem_all]) t
  refine ⟨f, hf, hk, ?_, ?_, walk_standsIn o t⟩
  · rw [render_eq_renderWithin hf, ← failure?_eq_none_iff, hw, List.findSome?_eq_none_iff]
  · intro e
    rw [render_eq_renderWithin hf, ← failure?_eq_some_iff, hw, List.findSome?_eq_some_iff]

/-- A time has no year for the first section of the template that `%c` expands to, and the unknown
section after it is not reached. -/
theorem render_first_failure_nested :
    let v : Value := .time ⟨1, 30, 0, 0, 0, by decide, by decide, by decide, by decide, by decide⟩
    v.IsCalendar ∧ Options.default.HasTexts ∧
      render (.text "%H %c %J".toList) v Options.default =
        .error (.missingField (.text "year".toList) (.text "Time".toList) (.text ['Y'])) := by
  intro v
  obtain ⟨f, hf, _, _, he, _⟩ :=
    render_first_failure (show v.IsCalendar from trivial) Options.hasTexts_default "%H %c %J".toList
  refine ⟨trivial, Options.hasTexts_default, (he _).mpr (List.findSome?_eq_some_iff.mp ?_)⟩
  obtain rfl := Except.ok.inj hf
  have hs : Template.sections "%H %c %J".toList =
      [(0, ⟨none, [], some 'H'⟩), (3, ⟨none, [], some 'c'⟩), (6, ⟨none, [], some 'J'⟩)] := rfl
  have hh : Section.known? ⟨none, [], some 'H'⟩ = some .hour := rfl
  have hc : Section.known? ⟨none, [], some 'c'⟩ = some (.preferred .datetime) := rfl
  rw [findSome?_walk, hs, List.findSome?_cons, walkFault?_known hh (by simp), List.findSome?_cons,
    walkFault?_preferred hc, if_neg (by simp), findSome?_walk]
  rfl

end CalendarText
