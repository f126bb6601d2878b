import CalendarText.Rendering
import CalendarText.Proofs.Outcomes
import CalendarText.Proofs.Seams

/-! How a rendering is put together. The sections of a template are rendered one after the other and
their texts joined at the end; the position of a section matters only to the failure that reports
it. -/

namespace CalendarText

namespace Section

/-- The directive that a section names, if there is one with its letter. -/
def known? (s : Section) : Option Directive :=
  s.directive.bind Directive.ofLetter?

def fault (s : Section) : SectionFault :=
  if s.directive.isNone then .unfinished else .unknown

theorem known?_preferred_iff {s : Section} {p : Preferred} :
    s.known? = some (.preferred p) ↔ s.directive = some p.letter := by
  rw [known?, Option.bind_eq_some_iff]
  constructor
  · rintro ⟨c, hc, hd⟩
    have hl : Directive.letter (.preferred p) = c := by simpa using List.find?_some hd
    rw [hc, ← hl]
    rfl
  · intro h
    exact ⟨p.letter, h, Directive.ofLetter?_letter (.preferred p)⟩

end Section

theorem Preferred.nodup_all : all.Nodup := by
  decide

variable {f : Fields} {o : Options} {expand expand' : Preferred → Outcome Text}

/-- What a preferred directive expands to while the given ones may still be expanded. -/
def expansion (f : Fields) (o : Options) (free : List Preferred) (p : Preferred) : Outcome Text :=
  if p ∈ free then renderWithin f o (free.erase p) (o.template p) else .error (.cyclic p)

def joined (f : Fields) (o : Options) (expand : Preferred → Outcome Text) (position : Nat)
    (pieces : List Piece) : Outcome Text := do
  joinTexts (← renderPieces f o expand position pieces)

theorem renderWithin_eq (f : Fields) (o : Options) (free : List Preferred) (t : Text) :
    renderWithin f o free t = joined f o (expansion f o free) 0 (Template.read t) := by
  rw [renderWithin]
  rfl

theorem render_eq_renderWithin {v : Value} (hv : Fields.ofValue v = .ok f) (t : Text) :
    render (.text t) v o = renderWithin f o Preferred.all t := by
  rw [render, hv]
  rfl

theorem renderSection_malformed {s : Section} (hs : s.known? = none) (k : Nat) :
    renderSection f o expand k s =
      if o.passesUnknown then .ok (.text s.text) else .error (.malformed s.fault s.text k) := by
  simp only [Section.known?] at hs
  simp only [renderSection, hs, Section.fault]

theorem renderSection_preferred {s : Section} {p : Preferred}
    (hs : s.known? = some (.preferred p)) (k : Nat) :
    renderSection f o expand k s = (do
      return .text (padLeading (← expand p) (s.resolve zeroFill 0).width
        (s.resolve zeroFill 0).fill)) := by
  simp only [Section.known?] at hs
  simp only [renderSection, hs]
  rfl

theorem renderSection_known {s : Section} {d : Directive} (hs : s.known? = some d)
    (hd : ∀ p, d ≠ .preferred p) (k : Nat) :
    renderSection f o expand k s = d.format f o (s.resolve d.defaultFill d.defaultWidth) := by
  simp only [Section.known?] at hs
  cases d with
  | preferred p => exact absurd rfl (hd p)
  | _ => simp only [renderSection, hs]

theorem Section.known?_cases (s : Section) :
    s.known? = none ∨ (∃ p, s.known? = some (.preferred p)) ∨
      ∃ d, s.known? = some d ∧ ∀ p, d ≠ .preferred p := by
  cases hs : s.known? with
  | none => exact .inl rfl
  | some d =>
    cases d with
    | preferred p => exact .inr (.inl ⟨p, rfl⟩)
    | _ => exact .inr (.inr ⟨_, rfl, fun p => by simp⟩)

theorem renderSection_congr {s : Section}
    (h : ∀ p, s.directive = some p.letter → expand p = expand' p) (k : Nat) :
    renderSection f o expand k s = renderSection f o expand' k s := by
  rcases s.known?_cases with hs | ⟨p, hs⟩ | ⟨d, hs, hd⟩
  · rw [renderSection_malformed hs, renderSection_malformed hs]
  · rw [renderSection_preferred hs, renderSection_preferred hs,
      h p (Section.known?_preferred_iff.mp hs)]
  · rw [renderSection_known hs hd, renderSection_known hs hd]

theorem renderSection_position {s : Section} (hs : s.known? ≠ none) (j k : Nat) :
    renderSection f o expand j s = renderSection f o expand k s := by
  rcases s.known?_cases with hn | ⟨p, hp⟩ | ⟨d, hd, hne⟩
  · exact absurd hn hs
  · rw [renderSection_preferred hp, renderSection_preferred hp]
  · rw [renderSection_known hd hne, renderSection_known hd hne]

theorem renderSection_shift {s : Section} {d : Datum} {k : Nat}
    (h : renderSection f o expand k s = .ok d) (j : Nat) :
    renderSection f o expand j s = .ok d := by
  by_cases hs : s.known? = none
  · rw [renderSection_malformed hs] at h ⊢
    by_cases ho : o.passesUnknown
    · simpa only [ho, if_true] using h
    · simp [ho] at h
  · rw [renderSection_position hs j k]
    exact h

theorem joinTexts_text (t : Text) (rest : List Datum) :
    joinTexts (.text t :: rest) = (do return t ++ (← joinTexts rest)) := rfl

theorem joinTexts_append (a b : List Datum) :
    joinTexts (a ++ b) = (do return (← joinTexts a) ++ (← joinTexts b)) := by
  induction a with
  | nil => cases hb : joinTexts b <;> simp [joinTexts, hb]
  | cons d rest ih =>
    cases d with
    | text t =>
      rw [List.cons_append, joinTexts_text, joinTexts_text, ih]
      cases joinTexts rest <;> cases joinTexts b <;> simp
    | _ => rfl

theorem joinTexts_error {ds : List Datum} {e : Failure} (h : joinTexts ds = .error e) :
    e = .wrongKind := by
  induction ds with
  | nil => simp [joinTexts] at h
  | cons d rest ih =>
    cases d with
    | text t =>
      rw [joinTexts_text, bind_eq_error_iff] at h
      rcases h with h | ⟨_, _, h⟩
      · exact ih h
      · simp at h
    | _ => exact (Except.error.inj h).symm

theorem renderPieces_directive (k : Nat) (s : Section) (rest : List Piece) :
    renderPieces f o expand k (.directive s :: rest) = (do
      let d ← renderSection f o expand k s
      return d :: (← renderPieces f o expand (k + s.text.length) rest)) := rfl

theorem renderPieces_literal (k : Nat) (c : Char) (rest : List Piece) :
    renderPieces f o expand k (.literal c :: rest) = (do
      return .text [c] :: (← renderPieces f o expand (k + 1) rest)) := rfl

theorem renderPieces_append (k : Nat) (xs ys : List Piece) :
    renderPieces f o expand k (xs ++ ys) = (do
      let a ← renderPieces f o expand k xs
      let b ← renderPieces f o expand (k + (Template.write xs).length) ys
      return a ++ b) := by
  induction xs generalizing k with
  | nil => cases h : renderPieces f o expand k ys <;> simp [renderPieces, h]
  | cons piece rest ih =>
    cases piece with
    | literal c =>
      have hk : k + (Template.write (.literal c :: rest)).length =
          k + 1 + (Template.write rest).length := by
        simp only [Template.write_cons, Piece.text, List.length_append, List.length_singleton]
        omega
      rw [List.cons_append, renderPieces_literal, renderPieces_literal, ih, hk]
      cases renderPieces f o expand (k + 1) rest <;>
        cases renderPieces f o expand (k + 1 + (Template.write rest).length) ys <;> simp
    | directive s =>
      have hk : k + (Template.write (.directive s :: rest)).length =
          k + s.text.length + (Template.write rest).length := by
        simp only [Template.write_cons, Piece.text, List.length_append]
        omega
      rw [List.cons_append, renderPieces_directive, renderPieces_directive, ih, hk]
      cases renderSection f o expand k s <;>
        cases renderPieces f o expand (k + s.text.length) rest <;>
        cases renderPieces f o expand (k + s.text.length + (Template.write rest).length) ys <;> simp

theorem renderPieces_rel {R : {α : Type} → Outcome α → Outcome α → Prop} (hR : Congruent R)
    {g : Fields} {o' : Options} {pieces : List Piece}
    (h : ∀ k s, Piece.directive s ∈ pieces →
      R (renderSection f o expand k s) (renderSection g o' expand' k s)) (k : Nat) :
    R (renderPieces f o expand k pieces) (renderPieces g o' expand' k pieces) := by
  induction pieces generalizing k with
  | nil => exact hR.refl _
  | cons piece rest ih =>
    have hr := ih fun k s hs => h k s (List.mem_cons_of_mem _ hs)
    cases piece with
    | literal c => exact hR.map (hr (k + 1)) _
    | directive s => exact hR.bind (h k s (by simp)) fun _ => hR.map (hr (k + s.text.length)) _

theorem renderPieces_congr {pieces : List Piece}
    (h : ∀ s, Piece.directive s ∈ pieces → ∀ p, s.directive = some p.letter →
      expand p = expand' p) (k : Nat) :
    renderPieces f o expand k pieces = renderPieces f o expand' k pieces := by
  have hR : Congruent (fun x y => x = y) :=
    ⟨fun _ => rfl, fun hx hg => by rw [hx]; exact congrArg _ (funext hg)⟩
  exact renderPieces_rel hR (fun k s hs => renderSection_congr (h s hs) k) k

theorem renderPieces_shift {pieces : List Piece} {ds : List Datum} {k : Nat}
    (h : renderPieces f o expand k pieces = .ok ds) (j : Nat) :
    renderPieces f o expand j pieces = .ok ds := by
  induction pieces generalizing k j ds with
  | nil => exact h
  | cons piece rest ih =>
    cases piece with
    | literal c =>
      rw [renderPieces_literal, bind_eq_ok_iff] at h ⊢
      obtain ⟨a, ha, hd⟩ := h
      exact ⟨a, ih ha _, hd⟩
    | directive s =>
      rw [renderPieces_directive, bind_eq_ok_iff] at h ⊢
      obtain ⟨d, hs, hd⟩ := h
      obtain ⟨a, ha, hd⟩ := bind_eq_ok_iff.mp hd
      exact ⟨d, renderSection_shift hs _, bind_eq_ok_iff.mpr ⟨a, ih ha _, hd⟩⟩

theorem renderSection_of_renderPieces {pieces : List Piece} {ds : List Datum} {k : Nat}
    (h : renderPieces f o expand k pieces = .ok ds) {s : Section}
    (hs : Piece.directive s ∈ pieces) : ∃ j d, renderSection f o expand j s = .ok d := by
  induction pieces generalizing k ds with
  | nil => simp at hs
  | cons piece rest ih =>
    cases piece with
    | literal c =>
      rw [renderPieces_literal, bind_eq_ok_iff] at h
      obtain ⟨a, ha, _⟩ := h
      exact ih ha (by simpa using hs)
    | directive e =>
      rw [renderPieces_directive, bind_eq_ok_iff] at h
      obtain ⟨d, he, hd⟩ := h
      obtain ⟨a, ha, _⟩ := bind_eq_ok_iff.mp hd
      rcases List.mem_cons.mp hs with hs | hs
      · obtain rfl := Piece.directive.inj hs
        exact ⟨k, d, he⟩
      · exact ih ha hs

theorem joined_literal (k : Nat) (c : Char) (rest : List Piece) :
    joined f o expand k (.literal c :: rest) = (do
      return c :: (← joined f o expand (k + 1) rest)) := by
  rw [joined, joined, renderPieces_literal]
  cases renderPieces f o expand (k + 1) rest <;> rfl

theorem joined_text {k : Nat} {s : Section} {t : Text}
    (hs : renderSection f o expand k s = .ok (.text t)) (rest : List Piece) :
    joined f o expand k (.directive s :: rest) = (do
      return t ++ (← joined f o expand (k + s.text.length) rest)) := by
  rw [joined, joined, renderPieces_directive, hs]
  cases renderPieces f o expand (k + s.text.length) rest <;> rfl

theorem joined_single {k : Nat} {s : Section} {t : Text}
    (hs : renderSection f o expand k s = .ok (.text t)) :
    joined f o expand k [.directive s] = .ok t := by
  rw [joined_text hs]
  exact congrArg Except.ok (List.append_nil t)

theorem joined_error {k : Nat} {s : Section} {e : Failure}
    (hs : renderSection f o expand k s = .error e) (rest : List Piece) :
    joined f o expand k (.directive s :: rest) = .error e := by
  rw [joined, renderPieces_directive, hs]
  rfl

theorem joined_outcome {k : Nat} {s : Section} {x : Outcome Text}
    (hs : renderSection f o expand k s = (do return .text (← x))) :
    joined f o expand k [.directive s] = x := by
  cases x with
  | error e => exact joined_error hs []
  | ok t => exact joined_single hs

theorem renderSection_preferred_ok {p : Preferred} {t : Text} (he : expand p = .ok t) (k : Nat) :
    renderSection f o expand k ⟨none, [], some p.letter⟩ = .ok (.text t) := by
  have hs : Section.known? ⟨none, [], some p.letter⟩ = some (.preferred p) :=
    Section.known?_preferred_iff.mpr rfl
  have hl : padLeading t 0 zeroFill = t := padLeading_of_le zeroFill (Int.natCast_nonneg _)
  rw [renderSection_preferred hs, he]
  exact congrArg (Except.ok ∘ Datum.text) hl

theorem joined_preferred (expand : Preferred → Outcome Text) (k : Nat) (p : Preferred) :
    joined f o expand k [.directive ⟨none, [], some p.letter⟩] = expand p := by
  have hs : Section.known? ⟨none, [], some p.letter⟩ = some (.preferred p) :=
    Section.known?_preferred_iff.mpr rfl
  cases he : expand p with
  | error e => exact joined_error (by rw [renderSection_preferred hs, he]; rfl) []
  | ok t => exact joined_single (renderSection_preferred_ok he k)

theorem joined_append_ok {xs ys : List Piece} {r : Text} {k : Nat} :
    joined f o expand k (xs ++ ys) = .ok r ↔
      ∃ a b, joined f o expand k xs = .ok a ∧ joined f o expand k ys = .ok b ∧ r = a ++ b := by
  simp only [joined, renderPieces_append, bind_eq_ok_iff, pure_eq_ok, Except.ok.injEq]
  constructor
  · rintro ⟨_, ⟨ds, hx, es, hy, rfl⟩, hr⟩
    rw [joinTexts_append, bind_eq_ok_iff] at hr
    obtain ⟨a, ha, hb⟩ := hr
    obtain ⟨b, hb, hr⟩ := bind_eq_ok_iff.mp hb
    exact ⟨a, b, ⟨ds, hx, ha⟩, ⟨es, renderPieces_shift hy _, hb⟩, (Except.ok.inj hr).symm⟩
  · rintro ⟨a, b, ⟨ds, hx, ha⟩, ⟨es, hy, hb⟩, rfl⟩
    refine ⟨ds ++ es, ⟨ds, hx, es, renderPieces_shift hy _, rfl⟩, ?_⟩
    rw [joinTexts_append, ha, hb]
    rfl

theorem renderSection_preferred_settles {s : Section} {p : Preferred}
    (hs : s.known? = some (.preferred p)) (f : Fields) (o : Options)
    (expand : Preferred → Outcome Text) (k : Nat) :
    Settles Datum.IsText (renderSection f o expand k s) (failure? (expand p)) := by
  rw [renderSection_preferred hs]
  cases expand p with
  | error e => rfl
  | ok t => exact ⟨_, rfl, _, rfl⟩

/-- When every section either fails or gives a text, the rendering fails as its first failing
section does. -/
theorem failure?_joined {pieces : List Piece} (fault : Nat → Section → Option Failure)
    (h : ∀ j s, Piece.directive s ∈ pieces →
      Settles Datum.IsText (renderSection f o expand j s) (fault j s)) (k : Nat) :
    failure? (joined f o expand k pieces) =
      (Template.sectionsFrom k pieces).findSome? fun x => fault x.1 x.2 := by
  induction pieces generalizing k with
  | nil => rfl
  | cons piece rest ih =>
    have hr := ih (fun j s hs => h j s (List.mem_cons_of_mem _ hs))
    cases piece with
    | literal c => rw [Template.sectionsFrom, ← hr, joined_literal, failure?_map]
    | directive s =>
      have hs := h k s (by simp)
      rw [Template.sectionsFrom, List.findSome?_cons, ← hr]
      cases hf : fault k s with
      | some e =>
        rw [hf] at hs
        rw [joined_error hs, failure?_error]
      | none =>
        rw [hf] at hs
        obtain ⟨_, hs, t, rfl⟩ := hs
        rw [joined_text hs, failure?_map]

end CalendarText
