import CalendarText.Proofs.Causes
import CalendarText.Proofs.Dependence

/-! Passing unknown sections on instead of reporting them. Options that differ in nothing else render
alike until the first section that is reported, and a template without known directives is passed on
as it stands. A section can still be reported by a rule for names that renders a template itself. -/

namespace CalendarText

variable {α β : Type}

/-- The second outcome is the first one, unless that one reports a section as malformed. -/
def KeptIn (x y : Outcome α) : Prop :=
  NeverMalformed x → y = x

theorem keptIn_congruent : Congruent KeptIn where
  refl _ _ := rfl
  bind {_ _ x _ _ _} hx hg hn := by
    obtain ⟨hn, hr⟩ := failsOnly_bind.mp hn
    rw [hx hn]
    cases he : x with
    | error e => rfl
    | ok a => exact hg a (hr a he)

/-- No section of the template has the character of a directive. -/
def Template.NamesNothing (t : Text) : Prop :=
  ∀ s, Piece.directive s ∈ read t → s.known? = none

instance (t : Text) : Decidable (Template.NamesNothing t) :=
  decidable_of_iff
    ((Template.read t).all fun
      | .literal _ => true
      | .directive s => s.known?.isNone) <| by
    rw [List.all_eq_true]
    constructor
    · intro h s hs
      exact Option.isNone_iff_eq_none.mp (h _ hs)
    · intro h piece hp
      cases piece with
      | literal c => rfl
      | directive s => exact Option.isNone_iff_eq_none.mpr (h s hp)

namespace Options

def withPassthrough (o : Options) (d : Datum) : Options :=
  { o with passthrough := d }

/-- Some section that the template reaches takes a name from a rule, and the rule fails so. -/
def RuleFails (o : Options) (t : Text) (f : Fields) (e : Failure) : Prop :=
  ∃ s d, o.Reaches t s ∧ s.known? = some d ∧ d.RuleFails f o e

/-- If the failure is a malformed section, a rule that the template reaches gave it. -/
def Blamed (o : Options) (t : Text) (f : Fields) (e : Failure) : Prop :=
  e.IsMalformed → o.RuleFails t f e

end Options

variable {f : Fields} {o : Options} {p q : Datum}

theorem Directive.format_withPassthrough (d : Directive) (f : Fields) (o : Options) (p q : Datum)
    (m : Modifiers) : d.format f (o.withPassthrough p) m = d.format f (o.withPassthrough q) m := by
  cases d <;> rfl

section Pieces

variable {expand expand' : Preferred → Outcome Text}

theorem renderSection_keptIn (hp : p.truthy = false) (he : ∀ d, KeptIn (expand d) (expand' d))
    (k : Nat) (s : Section) :
    KeptIn (renderSection f (o.withPassthrough p) expand k s)
      (renderSection f (o.withPassthrough q) expand' k s) := by
  rcases s.known?_cases with hs | ⟨d, hs⟩ | ⟨d, hs, hd⟩
  · intro hn
    have hr : (o.withPassthrough p).passesUnknown = false := hp
    rw [renderSection_malformed hs, hr, if_neg Bool.false_ne_true] at hn
    exact absurd trivial (hn _ rfl)
  · rw [renderSection_preferred hs, renderSection_preferred hs]
    exact keptIn_congruent.map (he d) _
  · intro _
    rw [renderSection_known hs hd, renderSection_known hs hd]
    exact d.format_withPassthrough f o q p _

theorem renderPieces_failsOnly {allowed : Failure → Prop} {pieces : List Piece}
    (hs : ∀ k s, Piece.directive s ∈ pieces → FailsOnly allowed (renderSection f o expand k s))
    (k : Nat) : FailsOnly allowed (renderPieces f o expand k pieces) := by
  induction pieces generalizing k with
  | nil => simp [renderPieces]
  | cons piece rest ih =>
    have hr := ih fun k s h => hs k s (List.mem_cons_of_mem _ h)
    cases piece with
    | literal c => simp [renderPieces_literal, hr]
    | directive s => simp [renderPieces_directive, hs k s (by simp), hr]

/-- A section of a template fails as its template may, if the templates it mentions do. -/
theorem renderSection_blamed (ho : o.passesUnknown) {t : Text}
    (he : ∀ p, FailsOnly (o.Blamed (o.template p) f) (expand p)) {s : Section}
    (hs : Piece.directive s ∈ Template.read t) (k : Nat) :
    FailsOnly (o.Blamed t f) (renderSection f o expand k s) := by
  rcases s.known?_cases with hu | ⟨p, hp⟩ | ⟨d, hk, hd⟩
  · simp [renderSection_malformed hu, ho]
  · rw [renderSection_preferred hp]
    refine failsOnly_bind.mpr ⟨(he p).imp fun e hb hm => ?_, by simp⟩
    obtain ⟨u, d, hr, hu⟩ := hb hm
    exact ⟨u, d, .through ⟨s, hs, Section.known?_preferred_iff.mp hp⟩ hr, hu⟩
  · rw [renderSection_known hk hd]
    exact (d.format_blamed f o _).imp fun e hb hm => ⟨s, d, .here hs, hk, hb hm⟩

theorem joined_namesNothing (ho : o.passesUnknown) {pieces : List Piece}
    (hn : ∀ s, Piece.directive s ∈ pieces → s.known? = none) (k : Nat) :
    joined f o expand k pieces = .ok (Template.write pieces) := by
  induction pieces generalizing k with
  | nil => rfl
  | cons piece rest ih =>
    have hr := ih fun s hs => hn s (List.mem_cons_of_mem _ hs)
    cases piece with
    | literal c =>
      rw [joined_literal, hr]
      rfl
    | directive s =>
      have hs : renderSection f o expand k s = .ok (.text s.text) := by
        rw [renderSection_malformed (hn s (by simp)), if_pos ho]
      rw [joined_text hs, hr]
      rfl

end Pieces

theorem renderWithin_keptIn (hp : p.truthy = false) (free : List Preferred) (t : Text) :
    KeptIn (renderWithin f (o.withPassthrough p) free t)
      (renderWithin f (o.withPassthrough q) free t) := by
  induction free, t using renderWithin.induct f o with
  | case1 free t ih =>
    have he (d : Preferred) : KeptIn (expansion f (o.withPassthrough p) free d)
        (expansion f (o.withPassthrough q) free d) := by
      unfold expansion
      split
      · exact ih d ‹_›
      · exact fun _ => rfl
    rw [renderWithin_eq, renderWithin_eq]
    exact keptIn_congruent.map
      (renderPieces_rel keptIn_congruent (fun k s _ => renderSection_keptIn hp he k s) 0) _

theorem renderWithin_blamed (ho : o.passesUnknown) (free : List Preferred) (t : Text) :
    FailsOnly (o.Blamed t f) (renderWithin f o free t) := by
  induction free, t using renderWithin.induct f o with
  | case1 free t ih =>
    have he (p : Preferred) : FailsOnly (o.Blamed (o.template p) f) (expansion f o free p) := by
      unfold expansion
      split
      · exact ih p ‹_›
      · exact failsOnly_error.mpr False.elim
    rw [renderWithin_eq]
    refine failsOnly_bind.mpr
      ⟨renderPieces_failsOnly (fun k s hs => renderSection_blamed ho he hs k) 0, fun ds _ e hj => ?_⟩
    rw [joinTexts_error hj]
    exact False.elim

theorem renderWithin_namesNothing (ho : o.passesUnknown) {t : Text}
    (hn : Template.NamesNothing t) (free : List Preferred) :
    renderWithin f o free t = .ok t := by
  rw [renderWithin_eq, joined_namesNothing ho hn, Template.write_read]

theorem render_blamed (ho : o.passesUnknown) (t : Datum) (v : Value) {e : Failure}
    (h : render t v o = .error e) (hm : e.IsMalformed) :
    ∃ u f, t = .text u ∧ Fields.ofValue v = .ok f ∧ o.RuleFails u f e := by
  cases t with
  | text u =>
    rcases bind_eq_error_iff.mp h with hf | ⟨f, hf, hr⟩
    · exact absurd hm (Fields.ofValue_neverMalformed v e hf)
    · exact ⟨u, f, rfl, hf, renderWithin_blamed ho _ u e hr hm⟩
  | _ =>
    obtain rfl := Except.error.inj h
    exact hm.elim

theorem render_keptIn (hp : p.truthy = false) (t : Datum) (v : Value) :
    KeptIn (render t v (o.withPassthrough p)) (render t v (o.withPassthrough q)) := by
  cases t with
  | text t =>
    exact keptIn_congruent.bind (keptIn_congruent.refl (Fields.ofValue v)) fun _ =>
      renderWithin_keptIn hp _ t
  | _ => exact fun _ => rfl

end CalendarText
