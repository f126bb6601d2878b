import CalendarText.Proofs.Joining

/-! Templates written one after the other. If the first leaves no section open, its sections are
rendered first and then those of the second, which stand further on by the length of the first.
Only when no section fails are the texts joined. -/

namespace CalendarText

theorem Template.sectionsFrom_append (k : Nat) (xs ys : List Piece) :
    sectionsFrom k (xs ++ ys) = sectionsFrom k xs ++ sectionsFrom (k + (write xs).length) ys := by
  induction xs generalizing k with
  | nil => rfl
  | cons piece rest ih =>
    have hk : k + (write (piece :: rest)).length = k + piece.text.length + (write rest).length := by
      simp only [write_cons, List.length_append]
      omega
    cases piece with
    | literal c =>
      rw [hk]
      exact ih (k + 1)
    | directive s =>
      rw [hk]
      exact congrArg ((k, s) :: ·) (ih (k + s.text.length))

theorem Template.sectionsFrom_add (n k : Nat) (pieces : List Piece) :
    sectionsFrom (n + k) pieces = (sectionsFrom k pieces).map fun x => (n + x.1, x.2) := by
  induction pieces generalizing k with
  | nil => rfl
  | cons piece rest ih =>
    cases piece with
    | literal c => exact ih (k + 1)
    | directive s =>
      have hr := ih (k + s.text.length)
      rw [← Nat.add_assoc] at hr
      rw [sectionsFrom, hr]
      rfl

theorem Template.sections_append {p : Text} (hp : Complete p) (q : Text) :
    sections (p ++ q) = sections p ++ (sections q).map fun x => (p.length + x.1, x.2) := by
  rw [sections, read_append hp, sectionsFrom_append, Nat.add_comm, sectionsFrom_add, write_read]
  rfl

/-- How the failure of a section is reported when the section stands at a position: one that names
no directive is reported with the position, any other as it is. -/
def Section.reportAt (s : Section) (position : Nat) (e : Failure) : Failure :=
  if s.known? = none then .malformed s.fault s.text position else e

def firstFailing? (f : Fields) (o : Options) (expand : Preferred → Outcome Text)
    (xs : List (Nat × Section)) : Option (Nat × Section) :=
  xs.find? fun x => (failure? (renderSection f o expand x.1 x.2)).isSome

/-- The first section of a template that fails. -/
def failingSection? (f : Fields) (o : Options) (t : Text) : Option (Nat × Section) :=
  firstFailing? f o (expansion f o Preferred.all) (Template.sections t)

variable {f : Fields} {o : Options} {expand : Preferred → Outcome Text}

theorem failure?_renderSection_at (s : Section) (j k : Nat) :
    failure? (renderSection f o expand j s) =
      (failure? (renderSection f o expand k s)).map (s.reportAt j) := by
  by_cases hs : s.known? = none
  · rw [renderSection_malformed hs, renderSection_malformed hs]
    cases ho : o.passesUnknown <;> simp [failure?, Section.reportAt, hs]
  · have hr : s.reportAt j = id := funext fun e => if_neg hs
    rw [renderSection_position hs j k, hr, Option.map_id_fun, id]

theorem failure?_renderPieces (k : Nat) (pieces : List Piece) :
    failure? (renderPieces f o expand k pieces) =
      (firstFailing? f o expand (Template.sectionsFrom k pieces)).bind fun x =>
        failure? (renderSection f o expand x.1 x.2) := by
  induction pieces generalizing k with
  | nil => rfl
  | cons piece rest ih =>
    cases piece with
    | literal c => rw [Template.sectionsFrom, ← ih, renderPieces_literal, failure?_map]
    | directive s =>
      have hr := ih (k + s.text.length)
      rw [firstFailing?] at hr
      rw [Template.sectionsFrom, firstFailing?, List.find?_cons, renderPieces_directive]
      cases hs : renderSection f o expand k s with
      | error e => simp [hs]
      | ok d => simp only [failure?_ok, Option.isSome_none, ok_bind, failure?_map, hr]

theorem firstFailing?_add (n : Nat) (xs : List (Nat × Section)) :
    firstFailing? f o expand (xs.map fun x => (n + x.1, x.2)) =
      (firstFailing? f o expand xs).map fun x => (n + x.1, x.2) := by
  have hs (x : Nat × Section) :
      (failure? (renderSection f o expand (n + x.1) x.2)).isSome =
        (failure? (renderSection f o expand x.1 x.2)).isSome := by
    rw [failure?_renderSection_at x.2 (n + x.1) x.1, Option.isSome_map]
  rw [firstFailing?, firstFailing?, List.find?_map]
  congr 2
  funext x
  exact hs x

theorem failure?_renderPieces_add (n : Nat) (pieces : List Piece) :
    failure? (renderPieces f o expand n pieces) =
      (firstFailing? f o expand (Template.sectionsFrom 0 pieces)).bind fun x =>
        (failure? (renderSection f o expand x.1 x.2)).map (x.2.reportAt (n + x.1)) := by
  have hn : Template.sectionsFrom n pieces =
      (Template.sectionsFrom 0 pieces).map fun x => (n + x.1, x.2) :=
    Template.sectionsFrom_add n 0 pieces
  rw [failure?_renderPieces, hn, firstFailing?_add, Option.bind_map]
  congr 1
  funext x
  exact failure?_renderSection_at x.2 (n + x.1) x.1

/-- A failing section stops the rendering wherever the pieces stand, and it is reported from there. -/
theorem renderPieces_of_failing {pieces : List Piece} {x : Nat × Section}
    (h : firstFailing? f o expand (Template.sectionsFrom 0 pieces) = some x) :
    ∃ e, e = x.2.reportAt x.1 e ∧
      ∀ n, renderPieces f o expand n pieces = .error (x.2.reportAt (n + x.1) e) := by
  have hs : (failure? (renderSection f o expand x.1 x.2)).isSome := by
    rw [firstFailing?] at h
    simpa only using List.find?_some h
  obtain ⟨e, he⟩ := Option.isSome_iff_exists.mp hs
  have hx : failure? (renderSection f o expand x.1 x.2) =
      (failure? (renderSection f o expand x.1 x.2)).map (x.2.reportAt x.1) :=
    failure?_renderSection_at x.2 x.1 x.1
  rw [he, Option.map_some, Option.some.injEq] at hx
  refine ⟨e, hx, fun n => ?_⟩
  rw [← failure?_eq_some_iff, failure?_renderPieces_add, h, Option.bind_some, he, Option.map_some]

theorem renderPieces_of_passing {pieces : List Piece}
    (h : firstFailing? f o expand (Template.sectionsFrom 0 pieces) = none) :
    ∃ ds, ∀ n, renderPieces f o expand n pieces = .ok ds := by
  have hn : failure? (renderPieces f o expand 0 pieces) = none := by
    rw [failure?_renderPieces, h, Option.bind_none]
  obtain ⟨ds, hd⟩ := failure?_eq_none_iff.mp hn
  exact ⟨ds, renderPieces_shift hd⟩

theorem render_of_failing {v : Value} (hf : Fields.ofValue v = .ok f) {t : Text}
    {x : Nat × Section} (h : failingSection? f o t = some x) :
    ∃ e, e = x.2.reportAt x.1 e ∧ render (.text t) v o = .error e := by
  obtain ⟨e, hr, he⟩ := renderPieces_of_failing h
  refine ⟨e, hr, ?_⟩
  rw [render_eq_renderWithin hf, renderWithin_eq, joined, he, Nat.zero_add, ← hr]
  rfl

theorem render_of_passing {v : Value} (hf : Fields.ofValue v = .ok f) {t : Text} {e : Failure}
    (h : failingSection? f o t = none) (he : render (.text t) v o = .error e) :
    e = .wrongKind := by
  obtain ⟨ds, hd⟩ := renderPieces_of_passing h
  rw [render_eq_renderWithin hf, renderWithin_eq, joined, hd] at he
  exact joinTexts_error he

theorem renderWithin_append {p : Text} (hp : Template.Complete p) (free : List Preferred)
    (q : Text) :
    renderWithin f o free (p ++ q) = (do
      let a ← renderPieces f o (expansion f o free) 0 (Template.read p)
      let b ← renderPieces f o (expansion f o free) p.length (Template.read q)
      joinTexts (a ++ b)) := by
  rw [renderWithin_eq, joined, Template.read_append hp, renderPieces_append, Template.write_read,
    Nat.zero_add]
  cases renderPieces f o (expansion f o free) 0 (Template.read p) with
  | error e => rfl
  | ok a => cases renderPieces f o (expansion f o free) p.length (Template.read q) <;> rfl

theorem joinTexts_append_error {a b : List Datum} {e : Failure}
    (h : joinTexts a = .error e ∨ joinTexts b = .error e) : joinTexts (a ++ b) = .error e := by
  have he : e = .wrongKind := h.elim joinTexts_error joinTexts_error
  rw [joinTexts_append]
  cases ha : joinTexts a with
  | error d => rw [joinTexts_error ha, he]; rfl
  | ok s =>
    rcases h with h | h
    · simp [ha] at h
    · simp [h]

/-- A template that leaves no section open is rendered before whatever follows it. The sections of
both templates come first and the joining last: a failing section of the first template stops
everything, one of the second is reported further on if it names no directive, and texts that
cannot be joined are found out when no section fails. -/
theorem render_append (v : Value) (o : Options) {p : Text} (hp : Template.Complete p) (q : Text) :
    (Template.write (Template.read (p ++ q)) = p ++ q ∧
      Template.read (p ++ q) = Template.read p ++ Template.read q ∧
      Template.sections (p ++ q) =
        Template.sections p ++ (Template.sections q).map fun x => (p.length + x.1, x.2)) ∧
    (∀ r, render (.text (p ++ q)) v o = .ok r ↔
      ∃ a b, render (.text p) v o = .ok a ∧ render (.text q) v o = .ok b ∧ r = a ++ b) ∧
    (∀ e, Fields.ofValue v = .error e → ∀ t, render (.text t) v o = .error e) ∧
    ∀ f, Fields.ofValue v = .ok f →
      (∀ x, failingSection? f o p = some x →
        ∃ e, render (.text p) v o = .error e ∧ render (.text (p ++ q)) v o = .error e) ∧
      (failingSection? f o p = none → ∀ x, failingSection? f o q = some x →
        ∃ e, e = x.2.reportAt x.1 e ∧ render (.text q) v o = .error e ∧
          render (.text (p ++ q)) v o = .error (x.2.reportAt (p.length + x.1) e)) ∧
      (failingSection? f o p = none → failingSection? f o q = none →
        ∀ e, render (.text p) v o = .error e ∨ render (.text q) v o = .error e →
          e = .wrongKind ∧ render (.text (p ++ q)) v o = .error e) := by
  refine ⟨⟨Template.write_read _, Template.read_append hp q, Template.sections_append hp q⟩,
    ?_, fun e he t => by rw [render, he]; rfl, fun f hf => ⟨?_, ?_, ?_⟩⟩
  · intro r
    cases hf : Fields.ofValue v with
    | error e => simp [render, hf]
    | ok f =>
      simp only [render_eq_renderWithin hf, renderWithin_eq, Template.read_append hp,
        joined_append_ok]
  · intro x hx
    obtain ⟨e, hr, he⟩ := renderPieces_of_failing hx
    refine ⟨x.2.reportAt (0 + x.1) e, ?_, ?_⟩
    · rw [render_eq_renderWithin hf, renderWithin_eq, joined, he]
      rfl
    · rw [render_eq_renderWithin hf, renderWithin_append hp, he]
      rfl
  · intro hn x hx
    obtain ⟨a, ha⟩ := renderPieces_of_passing hn
    obtain ⟨e, hr, he⟩ := renderPieces_of_failing hx
    refine ⟨e, hr, ?_, ?_⟩
    · rw [render_eq_renderWithin hf, renderWithin_eq, joined, he, Nat.zero_add, ← hr]
      rfl
    · rw [render_eq_renderWithin hf, renderWithin_append hp, ha, ok_bind, he]
      rfl
  · intro hn hm e he
    obtain ⟨a, ha⟩ := renderPieces_of_passing hn
    obtain ⟨b, hb⟩ := renderPieces_of_passing hm
    simp only [render_eq_renderWithin hf, renderWithin_eq, joined, ha, hb, ok_bind] at he
    rw [render_eq_renderWithin hf, renderWithin_append hp, ha, hb, ok_bind, ok_bind]
    exact ⟨he.elim joinTexts_error joinTexts_error, joinTexts_append_error he⟩

/-- The unknown section of the second template is reported further on by the four characters of the
first, of which a quoted percent sign stands at the seam. -/
theorem render_append_moved :
    let v : Value := .date ⟨2019, 8, .number 26, by decide, by decide, by decide⟩
    Template.Complete "%d%%".toList ∧
      render (.text ("%d%%".toList ++ "%5J".toList)) v Options.default =
        .error (.malformed .unknown "%5J".toList 4) := by
  intro v
  have hp : Template.Complete "%d%%".toList := by decide
  obtain ⟨-, -, -, h⟩ := render_append v Options.default hp "%5J".toList
  obtain ⟨-, hq, -⟩ := h _ rfl
  obtain ⟨e, -, -, he⟩ := hq (by decide +kernel) (0, ⟨none, ['5'], some 'J'⟩) (by decide +kernel)
  exact ⟨hp, he⟩

/-- A month that is no text and no number passes through a section of two characters, and only the
joining turns it down, so the unknown section that follows is reported first. -/
theorem render_append_joined_last :
    let month : Datum := .tuple [.ofInt 1, .ofInt 2]
    let v : Value := .datum (.record [("month".toList, month)])
    Template.Complete "%m".toList ∧
      render (.text "%m".toList) v Options.default = .error .wrongKind ∧
      render (.text ("%m".toList ++ "%J".toList)) v Options.default =
        .error (.malformed .unknown "%J".toList 2) := by
  intro month v
  have hp : Template.Complete "%m".toList := by decide
  have hv : Fields.ofValue v = .ok (.ofEntries (.text v.kind) [("month".toList, month)]) := rfl
  obtain ⟨e, he⟩ : ∃ e, render (.text "%m".toList) v Options.default = .error e := by
    cases h : failure? (render (.text "%m".toList) v Options.default) with
    | none => exact absurd h (by decide +kernel)
    | some e => exact ⟨e, failure?_eq_some_iff.mp h⟩
  obtain ⟨d, hd, hr⟩ := render_of_failing (t := "%m%J".toList) hv
    (show failingSection? _ Options.default _ = some (2, ⟨none, [], some 'J'⟩) by decide +kernel)
  obtain rfl := render_of_passing hv (show failingSection? _ _ _ = none by decide +kernel) he
  rw [hd] at hr
  exact ⟨hp, he, hr⟩

end CalendarText
