import CalendarText.Proofs.References

/-! Writing the template of a preferred directive in its place. The two renderings differ in which
directives may still be expanded inside, and this makes no difference: a template that is
rendered at all never comes back to the directive it stands for. -/

namespace CalendarText

variable {f : Fields} {o : Options} {t r : Text} {p : Preferred}

theorem renderWithin_congr {free free' : List Preferred} (hn : free.Nodup) (hn' : free'.Nodup)
    (h : ∀ p, Template.Mentions t p → ∀ q, Relation.ReflTransGen o.Refers p q →
      (q ∈ free ↔ q ∈ free')) : renderWithin f o free t = renderWithin f o free' t := by
  induction free, t using renderWithin.induct f o generalizing free' with
  | case1 free t ih =>
    rw [renderWithin_eq, renderWithin_eq, joined, joined, renderPieces_congr]
    intro s hs p hl
    have hm := h p ⟨s, hs, hl⟩
    by_cases hp : p ∈ free
    · have hp' := (hm p .refl).mp hp
      simp only [expansion, hp, hp', if_true]
      apply ih p hp (hn.erase p) (hn'.erase p)
      intro q hq r hr
      rw [hn.mem_erase_iff, hn'.mem_erase_iff, hm r (.head hq hr)]
    · have hp' : p ∉ free' := fun hx => hp ((hm p .refl).mpr hx)
      simp only [expansion, hp, hp', if_false]

theorem not_refers_back {free : List Preferred}
    (h : renderWithin f o free (o.template p) = .ok r) {q : Preferred} (hq : o.Refers p q) :
    ¬Relation.ReflTransGen o.Refers q p :=
  fun hp => not_endless_of_renderWithin h hq ⟨q, .refl, Relation.TransGen.tail' hp hq⟩

/-- The template of a directive is rendered alike inside of its expansion and outside. -/
theorem renderWithin_template_erase {free : List Preferred} (hn : free.Nodup) :
    renderWithin f o (free.erase p) (o.template p) = .ok r ↔
      renderWithin f o free (o.template p) = .ok r := by
  have same (hb : ∀ q, o.Refers p q → ¬Relation.ReflTransGen o.Refers q p) :
      renderWithin f o (free.erase p) (o.template p) = renderWithin f o free (o.template p) := by
    apply renderWithin_congr (hn.erase p) hn
    intro q hq q' hr
    have hne : q' ≠ p := fun he => hb q hq (he ▸ hr)
    exact List.mem_erase_of_ne hne
  constructor
  · intro h
    rwa [← same (fun q hq => not_refers_back h hq)]
  · intro h
    rwa [same (fun q hq => not_refers_back h hq)]

/-- A preferred directive stands for its template: writing the template in its place changes neither
whether there is a rendering nor what it is. -/
theorem render_inline (v : Value) (o : Options) (p : Preferred) {s : Text}
    (hs : Template.Complete s) (hp : Template.Complete (o.template p)) (t r : Text) :
    render (.text (s ++ '%' :: p.letter :: t)) v o = .ok r ↔
      render (.text (s ++ o.template p ++ t)) v o = .ok r := by
  cases hv : Fields.ofValue v with
  | error e => simp [render, hv]
  | ok f =>
    have hx : Template.read (s ++ '%' :: p.letter :: t) =
        Template.read s ++ ([.directive ⟨none, [], some p.letter⟩] ++ Template.read t) := by
      rw [Template.read_append hs, Template.read_preferred]
      rfl
    have hy : Template.read (s ++ o.template p ++ t) =
        Template.read s ++ (Template.read (o.template p) ++ Template.read t) := by
      rw [List.append_assoc, Template.read_append hs, Template.read_append hp]
    have ht (a : Text) : expansion f o Preferred.all p = .ok a ↔
        joined f o (expansion f o Preferred.all) 0 (Template.read (o.template p)) = .ok a := by
      rw [← renderWithin_eq, ← renderWithin_template_erase Preferred.nodup_all,
        expansion, if_pos p.mem_all]
    rw [render_eq_renderWithin hv, render_eq_renderWithin hv, renderWithin_eq, renderWithin_eq,
      hx, hy]
    simp only [joined_append_ok, joined_preferred, ht]

/-- The date template refers to another one, and a quoted percent sign stands before the seam. -/
theorem render_inline_nested :
    let v : Value := .date ⟨2019, 8, .number 26, by decide, by decide, by decide⟩
    let o : Options := { Options.default with
      preferredDate := "%-d.%c".toList
      preferredDateTime := "%m%%".toList }
    Template.Complete "<%%".toList ∧ Template.Complete (o.template .date) ∧
      render (.text ("<%%".toList ++ '%' :: Preferred.date.letter :: "> %c".toList)) v o =
        .ok "<%26.08%> 08%".toList := by
  intro v o
  have hs : Template.Complete "<%%".toList := by decide
  have hp : Template.Complete (o.template .date) := by decide
  exact ⟨hs, hp, (render_inline v o .date hs hp _ _).mpr (by decide +kernel)⟩

end CalendarText
