import CalendarText.Proofs.Concatenation
import CalendarText.Proofs.Filling

/-! Two spellings of one section. Modifiers that only repeat the table may be written or left out, and
no width counts without padding, so sections that differ in these alone are rendered alike inside of
any template. What follows them is found further on or further in front, and nothing else. -/

namespace CalendarText

namespace Directive

/-- The selector that asks for the fill of the table. -/
def defaultSelector (d : Directive) : Selector :=
  if d.defaultFill = spaceFill then .spaces else .zeros

theorem fill_defaultSelector (d : Directive) : d.defaultSelector.fill = d.defaultFill := by
  cases d <;> rfl

/-- Two sections for the directive of which one leaves out what the other one writes. -/
inductive Respelled (d : Directive) : Section → Section → Prop
  /-- Fill and width of the table, as in `%d` and `%02d`. -/
  | defaults : Respelled d ⟨none, [], some d.letter⟩
      ⟨some d.defaultSelector, numeral d.defaultWidth, some d.letter⟩
  /-- The fill of the table under any width, as in `%5b` and `%_5b`. -/
  | fill {w : Text} (hw : IsDigits w) (h0 : w.head? ≠ some '0') :
      Respelled d ⟨none, w, some d.letter⟩ ⟨some d.defaultSelector, w, some d.letter⟩
  /-- The width of the table under zeros or spaces, as in `%_d` and `%_2d`. -/
  | width {x : Selector} (hx : x ≠ .bare) : Respelled d ⟨some x, [], some d.letter⟩
      ⟨some x, numeral d.defaultWidth, some d.letter⟩
  /-- Any width without padding, as in `%-3d` and `%-d`. -/
  | bare {w : Text} (hw : IsDigits w) : Respelled d ⟨some .bare, w, some d.letter⟩
      ⟨some .bare, [], some d.letter⟩

variable {d : Directive} {s s' : Section}

theorem Respelled.directive (h : d.Respelled s s') :
    s.directive = some d.letter ∧ s'.directive = some d.letter := by
  cases h <;> exact ⟨rfl, rfl⟩

theorem Respelled.grammatical (h : d.Respelled s s') : s.Grammatical ∧ s'.Grammatical := by
  have hn : IsDigits (numeral d.defaultWidth) := isDigits_numeral _
  have hnil : IsDigits [] := by simp [IsDigits]
  cases h with
  | defaults =>
    exact ⟨grammatical_of_letter rfl hnil (by simp), grammatical_of_letter rfl hn (by simp)⟩
  | fill hw h0 =>
    exact ⟨grammatical_of_letter rfl hw fun _ => h0, grammatical_of_letter rfl hw (by simp)⟩
  | width hx =>
    exact ⟨grammatical_of_letter rfl hnil (by simp), grammatical_of_letter rfl hn (by simp)⟩
  | bare hw =>
    exact ⟨grammatical_of_letter rfl hw (by simp), grammatical_of_letter rfl hnil (by simp)⟩

/-- Both spellings come to the same modifiers. -/
theorem Respelled.resolve (h : d.Respelled s s') :
    s.resolve d.defaultFill d.defaultWidth = s'.resolve d.defaultFill d.defaultWidth := by
  have hf := d.fill_defaultSelector
  have hb : d.defaultSelector ≠ .bare := by
    unfold defaultSelector
    split <;> simp
  have hn : numeral d.defaultWidth ≠ [] := numeral_ne_nil _
  cases h with
  | defaults =>
    simp [Section.resolve, Section.fill?, Section.width?, hf, hb, hn, numeralValue_numeral]
  | fill hw h0 =>
    simp [Section.resolve, Section.fill?, Section.width?, hf, hb]
  | width hx =>
    simp [Section.resolve, Section.fill?, Section.width?, hx, hn, numeralValue_numeral]
  | bare hw =>
    simp [Section.resolve, Section.fill?, Selector.fill]

end Directive

variable {f : Fields} {o : Options}

theorem Template.complete_append_section {p : Text} (hp : Complete p) {s : Section}
    (hs : s.Grammatical) (hd : s.directive ≠ none) :
    read (p ++ s.text) = read p ++ [.directive s] ∧ Complete (p ++ s.text) := by
  have hr : read (p ++ s.text) = read p ++ [.directive s] := by
    have ht := read_section hs hd []
    rw [List.append_nil] at ht
    rw [read_append hp, ht]
    rfl
  refine ⟨hr, fun e he => ?_⟩
  rw [hr, List.mem_append, List.mem_singleton] at he
  rcases he with he | he
  · exact hp e he
  · rw [Piece.directive.inj he]
    exact hd

/-- A rendering of one template and then another finds no failing section in the first and a malformed
one in the second, where it stops. -/
def MalformedAfter (f : Fields) (o : Options) (p q : Text) (k : Nat) (x : Section) : Prop :=
  failingSection? f o p = none ∧ failingSection? f o q = some (k, x) ∧ x.known? = none

/-- Two templates that come to the same fragments can stand for each other in front of a third, whose
malformed sections are reported where they stand. -/
theorem render_in_front {v : Value} (hv : Fields.ofValue v = .ok f) {p p' : Text}
    (hp : Template.Complete p) (hp' : Template.Complete p')
    (h : renderPieces f o (expansion f o Preferred.all) 0 (Template.read p) =
      renderPieces f o (expansion f o Preferred.all) 0 (Template.read p')) (q : Text) :
    ((∀ k x, ¬MalformedAfter f o p q k x) →
      render (.text (p ++ q)) v o = render (.text (p' ++ q)) v o) ∧
    ∀ k x, MalformedAfter f o p q k x →
      render (.text (p ++ q)) v o = .error (.malformed x.fault x.text (p.length + k)) ∧
        render (.text (p' ++ q)) v o = .error (.malformed x.fault x.text (p'.length + k)) := by
  simp only [render_eq_renderWithin hv, renderWithin_append hp, renderWithin_append hp', ← h]
  constructor
  · intro hn
    cases hx : failingSection? f o p with
    | some x =>
      obtain ⟨e, -, he⟩ := renderPieces_of_failing hx
      rw [he, error_bind, error_bind]
    | none =>
      obtain ⟨a, ha⟩ := renderPieces_of_passing hx
      rw [ha, ok_bind, ok_bind]
      cases hy : failingSection? f o q with
      | some y =>
        obtain ⟨e, -, he⟩ := renderPieces_of_failing hy
        have hk : y.2.known? ≠ none := fun hk => hn y.1 y.2 ⟨hx, hy, hk⟩
        -- A section that names a directive is reported without its position.
        have hr (n : Nat) : y.2.reportAt n e = e := if_neg hk
        rw [he, he, hr, hr]
      | none =>
        obtain ⟨b, hb⟩ := renderPieces_of_passing hy
        rw [hb, hb]
  · rintro k x ⟨hx, hy, hk⟩
    obtain ⟨a, ha⟩ := renderPieces_of_passing hx
    obtain ⟨e, -, he⟩ := renderPieces_of_failing hy
    have hr (n : Nat) : x.reportAt n e = .malformed x.fault x.text n := if_pos hk
    rw [ha, ok_bind, ok_bind, he, he, hr, hr]
    exact ⟨rfl, rfl⟩

/-- Leaving out modifiers that only repeat the table changes nothing, whatever stands around the
section: there is the same text or none, and the same failure, but for the position of a malformed
section behind, which is moved by the difference in length. -/
theorem render_respelled (v : Value) (o : Options) {d : Directive} {s s' : Section}
    (h : d.Respelled s s') {p : Text} (hp : Template.Complete p) (q : Text) :
    (∀ r, render (.text (p ++ s.text ++ q)) v o = .ok r ↔
      render (.text (p ++ s'.text ++ q)) v o = .ok r) ∧
    (∀ e, Fields.ofValue v = .error e → ∀ t, render (.text t) v o = .error e) ∧
    ∀ f, Fields.ofValue v = .ok f →
      ((∀ k x, ¬MalformedAfter f o (p ++ s.text) q k x) →
        render (.text (p ++ s.text ++ q)) v o = render (.text (p ++ s'.text ++ q)) v o) ∧
      ∀ k x, MalformedAfter f o (p ++ s.text) q k x →
        render (.text (p ++ s.text ++ q)) v o =
            .error (.malformed x.fault x.text ((p ++ s.text).length + k)) ∧
          render (.text (p ++ s'.text ++ q)) v o =
            .error (.malformed x.fault x.text ((p ++ s'.text).length + k)) := by
  obtain ⟨hs, hs'⟩ := h.grammatical
  obtain ⟨hd, hd'⟩ := h.directive
  obtain ⟨hr, hc⟩ := Template.complete_append_section hp hs (by simp [hd])
  obtain ⟨hr', hc'⟩ := Template.complete_append_section hp hs' (by simp [hd'])
  have he (e : Failure) (he : Fields.ofValue v = .error e) (t : Text) :
      render (.text t) v o = .error e := by
    rw [render, he]
    rfl
  have front (f : Fields) (hf : Fields.ofValue v = .ok f) := by
    refine render_in_front (o := o) hf hc hc' ?_ q
    rw [hr, hr', renderPieces_append, renderPieces_append]
    simp only [renderPieces,
      Directive.renderSection_shown_of_known (Directive.known?_of_letter hd),
      Directive.renderSection_shown_of_known (Directive.known?_of_letter hd'), h.resolve]
  refine ⟨fun r => ?_, he, front⟩
  cases hf : Fields.ofValue v with
  | error e => simp only [he e hf]
  | ok f =>
    obtain ⟨heq, hne⟩ := front f hf
    by_cases hm : ∃ k x, MalformedAfter f o (p ++ s.text) q k x
    · obtain ⟨k, x, hx⟩ := hm
      simp only [(hne k x hx).1, (hne k x hx).2, reduceCtorEq]
    · rw [heq fun k x hx => hm ⟨k, x, hx⟩]

/-- The short name of a month is filled up with spaces in either spelling, and the unknown section that
follows is reported one position further on. -/
theorem render_respelled_moved :
    let v : Value := .date ⟨2019, 8, .number 26, by decide, by decide, by decide⟩
    let s : Section := ⟨none, ['5'], some 'b'⟩
    let s' : Section := ⟨some .spaces, ['5'], some 'b'⟩
    Directive.shortMonthName.Respelled s s' ∧ Template.Complete "%%".toList ∧
      "%%%5b %J".toList = "%%".toList ++ s.text ++ " %J".toList ∧
      "%%%_5b %J".toList = "%%".toList ++ s'.text ++ " %J".toList ∧
      render (.text "%%%5b %J".toList) v Options.default =
        .error (.malformed .unknown "%J".toList 6) ∧
      render (.text "%%%_5b %J".toList) v Options.default =
        .error (.malformed .unknown "%J".toList 7) := by
  intro v s s'
  have hs : Directive.shortMonthName.Respelled s s' := .fill (isDigits_numeral 5) (by simp)
  have hp : Template.Complete "%%".toList := by decide
  obtain ⟨-, -, h⟩ := render_respelled v Options.default hs hp " %J".toList
  obtain ⟨h1, h2⟩ := (h _ rfl).2 1 ⟨none, [], some 'J'⟩
    ⟨by decide +kernel, by decide +kernel, rfl⟩
  exact ⟨hs, hp, rfl, rfl, h1, h2⟩

end CalendarText
