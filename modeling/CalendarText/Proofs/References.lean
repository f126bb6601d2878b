import CalendarText.Proofs.Joining
import CalendarText.Proofs.Requirements
import Mathlib.Logic.Relation

/-! References between the templates of the preferred directives. A rendering that may expand a
directive only once on each descent runs into a directive again exactly when a cycle of
references can be reached from the template. -/

namespace CalendarText

/-- Some section of the template names the preferred directive, under any modifiers. -/
def Template.Mentions (t : Text) (p : Preferred) : Prop :=
  ∃ s, Piece.directive s ∈ read t ∧ s.directive = some p.letter

namespace Options

def Refers (o : Options) (p q : Preferred) : Prop :=
  Template.Mentions (o.template p) q

/-- The references lead from the directive into a cycle. -/
def Endless (o : Options) (p : Preferred) : Prop :=
  ∃ q, Relation.ReflTransGen o.Refers p q ∧ Relation.TransGen o.Refers q q

variable {o : Options} {p q : Preferred}

theorem Endless.next (h : o.Endless p) : ∃ q, o.Refers p q ∧ o.Endless q := by
  obtain ⟨r, hr, hc⟩ := h
  rcases Relation.ReflTransGen.cases_head hr with rfl | ⟨q, hq, hr⟩
  · obtain ⟨q, hq, hr⟩ := Relation.TransGen.head'_iff.mp hc
    exact ⟨q, hq, p, hr, hc⟩
  · exact ⟨q, hq, r, hr, hc⟩

theorem Endless.of_refers (h : o.Refers p q) (hq : o.Endless q) : o.Endless p := by
  obtain ⟨r, hr, hc⟩ := hq
  exact ⟨r, hr.head h, hc⟩

end Options

variable {f : Fields} {o : Options} {t r : Text} {p : Preferred}

theorem expansion_eq_ok_iff {free : List Preferred} :
    expansion f o free p = .ok r ↔
      p ∈ free ∧ renderWithin f o (free.erase p) (o.template p) = .ok r := by
  by_cases hp : p ∈ free <;> simp [expansion, hp]

theorem renderWithin_expands {free : List Preferred} (h : renderWithin f o free t = .ok r)
    (hp : Template.Mentions t p) :
    p ∈ free ∧ ∃ r', renderWithin f o (free.erase p) (o.template p) = .ok r' := by
  obtain ⟨s, hs, hl⟩ := hp
  rw [renderWithin_eq] at h
  obtain ⟨ds, hd, _⟩ := bind_eq_ok_iff.mp h
  obtain ⟨k, d, hk⟩ := renderSection_of_renderPieces hd hs
  rw [renderSection_preferred (Section.known?_preferred_iff.mpr hl), bind_eq_ok_iff] at hk
  obtain ⟨r', he, _⟩ := hk
  obtain ⟨hm, hr⟩ := expansion_eq_ok_iff.mp he
  exact ⟨hm, r', hr⟩

theorem not_endless_of_renderWithin {free : List Preferred} (h : renderWithin f o free t = .ok r)
    (hp : Template.Mentions t p) : ¬o.Endless p := by
  -- Each step of the references that lead on for ever uses up a directive that is still free.
  induction free, t using renderWithin.induct f o generalizing p r with
  | case1 free t ih =>
    intro he
    obtain ⟨hm, r', hr⟩ := renderWithin_expands h hp
    obtain ⟨q, hq, hc⟩ := he.next
    exact ih p hm hr hq hc

/-- No section of the template fails on its own account: unknown ones are passed, and all others but
the preferred ones give a text. -/
def Unfailing (f : Fields) (o : Options) (t : Text) : Prop :=
  ∀ s, Piece.directive s ∈ Template.read t →
    (s.known? = none → o.passesUnknown) ∧
    ∀ d, s.known? = some d → (∀ p, d ≠ .preferred p) →
      ∃ r, d.format f o (s.resolve d.defaultFill d.defaultWidth) = .ok (.text r)

def carries (f : Fields) (o : Options) (t : Text) : Bool :=
  (Template.sections t).all fun x =>
    match x.2.known? with
    | none => o.passesUnknown
    | some d => d.needs.all fun field => (f.value? field).isSome

theorem unfailing_of_carries (hf : f.Sound) (ho : o.HasTexts) (h : carries f o t) :
    Unfailing f o t := by
  intro s hs
  obtain ⟨k, hm⟩ := Template.exists_mem_sections hs
  have hc := List.all_eq_true.mp h (k, s) hm
  refine ⟨fun hk => by simpa only [hk] using hc, fun d hk hd => ?_⟩
  have hx : f.missing? d.needs d.tag = none := by
    simpa [hk, Fields.missing?, Option.isSome_iff_ne_none] using hc
  have hr := Directive.format_settles hf ho hd (s.resolve d.defaultFill d.defaultWidth)
  rw [hx] at hr
  obtain ⟨_, hr, r, rfl⟩ := hr
  exact ⟨r, hr⟩

/-- What a section may fail with when it does not fail on its own account. -/
def expansionFault? (f : Fields) (o : Options) (free : List Preferred) (s : Section) :
    Option Failure :=
  match s.known? with
  | some (.preferred p) => failure? (expansion f o free p)
  | _ => none

theorem failure?_of_unfailing (ht : Unfailing f o t) (free : List Preferred) :
    failure? (renderWithin f o free t) =
      (Template.sections t).findSome? fun x => expansionFault? f o free x.2 := by
  rw [renderWithin_eq]
  refine failure?_joined (fun _ s => expansionFault? f o free s) (fun j s hs => ?_) 0
  obtain ⟨hu, hd⟩ := ht s hs
  rcases s.known?_cases with hk | ⟨p, hk⟩ | ⟨d, hk, hp⟩
  · rw [renderSection_malformed hk, if_pos (hu hk)]
    simp [expansionFault?, hk, Settles, Datum.IsText]
  · simpa [expansionFault?, hk] using renderSection_preferred_settles hk f o (expansion f o free) j
  · obtain ⟨r, hr⟩ := hd d hk hp
    have hx : expansionFault? f o free s = none := by
      cases d with
      | preferred p => exact absurd rfl (hp p)
      | _ => simp only [expansionFault?, hk]
    rw [renderSection_known hk hp, hr, hx]
    exact ⟨_, rfl, r, rfl⟩

theorem cyclic_of_unfailing {free : List Preferred} {e : Failure} (ht : Unfailing f o t)
    (ho : ∀ p, Unfailing f o (o.template p))
    (hfree : ∀ a, a ∉ free → ∀ p, Template.Mentions t p → Relation.TransGen o.Refers a p)
    (he : renderWithin f o free t = .error e) :
    ∃ p q, Template.Mentions t p ∧ o.Endless p ∧ e = .cyclic q := by
  -- What is being expanded refers to all that the template mentions, so what comes up again closes a
  -- cycle.
  induction free, t using renderWithin.induct f o with
  | case1 free t ih =>
    rw [← failure?_eq_some_iff, failure?_of_unfailing ht] at he
    obtain ⟨⟨k, s⟩, hs, hx⟩ := List.exists_of_findSome?_eq_some he
    rcases s.known?_cases with hk | ⟨p, hk⟩ | ⟨d, hk, hd⟩
    · simp [expansionFault?, hk] at hx
    · have hm : Template.Mentions t p :=
        ⟨s, Template.mem_read_of_mem_sections hs, Section.known?_preferred_iff.mp hk⟩
      simp only [expansionFault?, hk, failure?_eq_some_iff] at hx
      by_cases hp : p ∈ free
      · simp only [expansion, hp, if_true] at hx
        have hfree' : ∀ a, a ∉ free.erase p → ∀ q, o.Refers p q →
            Relation.TransGen o.Refers a q := by
          intro a ha q hq
          by_cases hap : a = p
          · rw [hap]
            exact .single hq
          · exact (hfree a (fun hm => ha ((List.mem_erase_of_ne hap).mpr hm)) p hm).tail hq
        obtain ⟨q, c, hq, hc, rfl⟩ := ih p hp (ho p) hfree' hx
        exact ⟨p, c, hm, .of_refers hq hc, rfl⟩
      · simp only [expansion, hp, if_false, Except.error.injEq] at hx
        exact ⟨p, p, hm, ⟨p, .refl, hfree p hp p hm⟩, hx.symm⟩
    · cases d with
      | preferred p => exact absurd rfl (hd p)
      | _ => simp [expansionFault?, hk] at hx

/-- Where nothing else can fail, rendering fails exactly when the references lead from a directive that
the template mentions into a cycle, and then it fails with a cyclic directive. -/
theorem render_cyclic_iff {v : Value} {t : Text} (hv : Fields.ofValue v = .ok f)
    (ht : Unfailing f o t) (ho : ∀ p, Unfailing f o (o.template p)) :
    ((∃ c, render (.text t) v o = .error (.cyclic c)) ↔
      ∃ p q, Template.Mentions t p ∧ Relation.ReflTransGen o.Refers p q ∧
        Relation.TransGen o.Refers q q) ∧
    ((∃ r, render (.text t) v o = .ok r) ↔
      ¬∃ p q, Template.Mentions t p ∧ Relation.ReflTransGen o.Refers p q ∧
        Relation.TransGen o.Refers q q) := by
  rw [render_eq_renderWithin hv]
  cases h : renderWithin f o Preferred.all t with
  | ok r =>
    have hno : ¬∃ p q, Template.Mentions t p ∧ Relation.ReflTransGen o.Refers p q ∧
        Relation.TransGen o.Refers q q := by
      rintro ⟨p, q, hp, hq⟩
      exact not_endless_of_renderWithin h hp ⟨q, hq⟩
    exact ⟨iff_of_false (by simp) hno, iff_of_true ⟨r, rfl⟩ hno⟩
  | error e =>
    obtain ⟨p, c, hp, ⟨q, hq⟩, rfl⟩ := cyclic_of_unfailing ht ho
      (fun a ha => absurd a.mem_all ha) h
    have hyes : ∃ p q, Template.Mentions t p ∧ Relation.ReflTransGen o.Refers p q ∧
        Relation.TransGen o.Refers q q := ⟨p, q, hp, hq⟩
    exact ⟨iff_of_true ⟨c, rfl⟩ hyes, iff_of_false (by simp) (not_not_intro hyes)⟩

/-- The time template leads into a cycle of the other two, and modifiers do not hide it. -/
theorem render_cyclic_iff_padded :
    let x : TimeOfDay := ⟨7, 0, 0, 0, 0, by decide, by decide, by decide, by decide, by decide⟩
    let f : Fields := ⟨.text "Time".toList, x.published⟩
    let o : Options := { Options.default with
      preferredTime := "%H %_9c".toList
      preferredDateTime := "%%%x".toList
      preferredDate := "%-5c".toList }
    Fields.ofValue (.time x) = .ok f ∧ Unfailing f o "%H%X".toList ∧
      (∀ p, Unfailing f o (o.template p)) ∧
      ∃ c, render (.text "%H%X".toList) (.time x) o = .error (.cyclic c) := by
  intro x f o
  have hf : f.Sound := x.published_sound _
  have hn : o.HasTexts := { Options.hasTexts_default with }
  have ht : Unfailing f o "%H%X".toList := unfailing_of_carries hf hn (by decide)
  have ho : ∀ p, Unfailing f o (o.template p) := by
    intro p
    cases p <;> exact unfailing_of_carries hf hn (by decide)
  have hx : Template.Mentions "%H%X".toList .time := ⟨⟨none, [], some 'X'⟩, by decide, rfl⟩
  have hxc : o.Refers .time .datetime := ⟨⟨some .spaces, ['9'], some 'c'⟩, by decide, rfl⟩
  have hcd : o.Refers .datetime .date := ⟨⟨none, [], some 'x'⟩, by decide, rfl⟩
  have hdc : o.Refers .date .datetime := ⟨⟨some .bare, ['5'], some 'c'⟩, by decide, rfl⟩
  exact ⟨rfl, ht, ho, (render_cyclic_iff rfl ht ho).1.mpr
    ⟨.time, .datetime, hx, .single hxc, .head hcd (.single hdc)⟩⟩

end CalendarText
