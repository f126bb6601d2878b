import CalendarText.Proofs.Components

/-! Any text can be written into a template. With every percent sign written twice it is rendered as
itself, whatever the value and the options are, and whatever template follows it is rendered as it
is on its own. -/

namespace CalendarText

namespace Template

/-- The template that stands for a text: every percent sign is written twice. -/
def verbatim (t : Text) : Text :=
  t.flatMap fun c => if c = '%' then ['%', '%'] else [c]

def verbatimPiece (c : Char) : Piece :=
  if c = '%' then .directive Directive.percent.bare else .literal c

theorem read_percent (t : Text) :
    read ('%' :: '%' :: t) = .directive Directive.percent.bare :: read t := rfl

theorem read_literal {c : Char} (hc : c ≠ '%') (t : Text) :
    read (c :: t) = .literal c :: read t := by
  simp only [read, scan, if_neg hc]

theorem read_verbatim_append (s t : Text) :
    read (verbatim s ++ t) = s.map verbatimPiece ++ read t := by
  induction s with
  | nil => rfl
  | cons c s ih =>
    by_cases hc : c = '%'
    -- The second sign of a pair closes the section that the first one opens, however many of them
    -- stand in a row.
    · subst c
      exact (read_percent (verbatim s ++ t)).trans (congrArg (_ :: ·) ih)
    · have hv : verbatim (c :: s) ++ t = c :: (verbatim s ++ t) := by
        simp [verbatim, hc]
      rw [hv, read_literal hc, ih, List.map_cons, verbatimPiece, if_neg hc, List.cons_append]

end Template

variable {f : Fields} {o : Options} {expand : Preferred → Outcome Text}

theorem renderSection_percent (k : Nat) :
    renderSection f o expand k Directive.percent.bare = .ok (.text ['%']) := by
  have hc : Directive.percent.content f o = .ok (.text ['%']) := rfl
  have hd : Directive.percent.IsPadded := trivial
  have hl : padLeading ['%'] Directive.percent.defaultWidth Directive.percent.defaultFill = ['%'] :=
    padLeading_of_le _ (by decide)
  rw [Directive.renderSection_bare (by simp), Directive.format_padded hd, hc, ok_bind, padDatum,
    padItem_text, hl]
  simp

theorem joined_verbatim (s : Text) (k : Nat) :
    joined f o expand k (s.map Template.verbatimPiece) = .ok s := by
  induction s generalizing k with
  | nil => rfl
  | cons c s ih =>
    rw [List.map_cons, Template.verbatimPiece]
    split
    · subst c
      rw [joined_text (renderSection_percent k), ih]
      rfl
    · rw [joined_literal, ih]
      rfl

/-- A text written verbatim is rendered as itself and never fails. In front of a template it is put
in front of what the template is rendered as, and it does not make the template fail or succeed. -/
theorem render_verbatim {v : Value} {f : Fields} (hv : Fields.ofValue v = .ok f) (o : Options)
    (s : Text) :
    render (.text (Template.verbatim s)) v o = .ok s ∧
      ∀ t r, render (.text (Template.verbatim s ++ t)) v o = .ok r ↔
        ∃ r', render (.text t) v o = .ok r' ∧ r = s ++ r' := by
  have hs (k : Nat) : joined f o (expansion f o Preferred.all) k (s.map Template.verbatimPiece) =
      .ok s :=
    joined_verbatim s k
  constructor
  · have hr := Template.read_verbatim_append s []
    rw [List.append_nil] at hr
    rw [render_eq_renderWithin hv, renderWithin_eq, hr]
    exact (congrArg (joined f o _ 0) (List.append_nil _)).trans (hs 0)
  · intro t r
    rw [render_eq_renderWithin hv, render_eq_renderWithin hv, renderWithin_eq, renderWithin_eq,
      Template.read_verbatim_append, joined_append_ok]
    simp [hs]

/-- Pairs of percent signs in a row, one of them in front of what would be a section, and a last one
that meets the section after the seam. -/
theorem render_verbatim_sections :
    let v : Value := .date ⟨2019, 8, .number 6, by decide, by decide, by decide⟩
    let s := "100%%5d%".toList
    Template.verbatim s = "100%%%%5d%%".toList ∧
      render (.text (Template.verbatim s)) v Options.default = .ok s ∧
      render (.text (Template.verbatim s ++ "%-d".toList)) v Options.default =
        .ok "100%%5d%6".toList := by
  intro v s
  obtain ⟨hs, ht⟩ := render_verbatim (v := v) rfl Options.default s
  exact ⟨by decide, hs, (ht _ _).mpr ⟨['6'], by decide +kernel, rfl⟩⟩

end CalendarText
