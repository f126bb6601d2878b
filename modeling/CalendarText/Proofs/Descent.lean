import CalendarText.Proofs.Joining
import CalendarText.Proofs.Scanning
import Mathlib.Data.List.Perm.Subperm

/-! The calls that a rendering makes. An expansion renders another template, in which its directive may
no longer be expanded, so a chain of nested calls names every directive at most once and what
would happen beyond it never matters. -/

namespace CalendarText

/-- The rendering of one template, and the preferred directives that may still be expanded in it. -/
structure Call where
  free : List Preferred
  template : Text

namespace Call

variable {f : Fields} {o : Options} {expand expand' : Preferred → Outcome Text}

/-- The call that the expansion of a directive makes. -/
def within (c : Call) (o : Options) (p : Preferred) : Call :=
  ⟨c.free.erase p, o.template p⟩

def outcome (f : Fields) (o : Options) (c : Call) : Outcome Text :=
  renderWithin f o c.free c.template

/-- Some section is rendered that names the directive: all sections before it have given something. -/
def Meets (f : Fields) (o : Options) (expand : Preferred → Outcome Text)
    (xs : List (Nat × Section)) (p : Preferred) : Prop :=
  ∃ before k s after, xs = before ++ (k, s) :: after ∧
    (∀ x ∈ before, ∃ d, renderSection f o expand x.1 x.2 = .ok d) ∧
    s.known? = some (.preferred p)

/-- The call meets the directive and calls for its template. -/
def Expands (f : Fields) (o : Options) (c : Call) (p : Preferred) (c' : Call) : Prop :=
  Meets f o (expansion f o c.free) (Template.sections c.template) p ∧ p ∈ c.free ∧ c' = c.within o p

/-- Calls that are nested in each other, with the directives that are being expanded. -/
inductive Chain (f : Fields) (o : Options) : Call → List Preferred → Call → Prop
  | nil (c : Call) : Chain f o c [] c
  | cons {c c' c'' : Call} {p : Preferred} {ps : List Preferred} (h : c.Expands f o p c')
      (hr : Chain f o c' ps c'') : Chain f o c (p :: ps) c''

theorem Chain.nodup {c c' : Call} {ps : List Preferred} (h : Chain f o c ps c')
    (hc : c.free.Nodup) : ps.Nodup ∧ ps ⊆ c.free := by
  -- What a call expands is free there and no longer free inside.
  induction h with
  | nil c => exact ⟨List.nodup_nil, List.nil_subset _⟩
  | @cons c c' c'' p ps h hr ih =>
    obtain ⟨-, hp, rfl⟩ := h
    obtain ⟨hn, hs⟩ := ih (hc.erase p)
    have hm (q : Preferred) (hq : q ∈ ps) : q ≠ p ∧ q ∈ c.free := hc.mem_erase_iff.mp (hs hq)
    exact ⟨List.nodup_cons.mpr ⟨fun hq => (hm p hq).1 rfl, hn⟩,
      List.cons_subset.mpr ⟨hp, fun q hq => (hm q hq).2⟩⟩

theorem Chain.length_le {c c' : Call} {ps : List Preferred} (h : Chain f o c ps c')
    (hc : c.free.Nodup) : ps.length ≤ c.free.length := by
  obtain ⟨hn, hs⟩ := h.nodup hc
  exact (hn.subperm hs).length_le

theorem renderPieces_meets {k : Nat} {pieces : List Piece}
    (h : ∀ p, Meets f o expand (Template.sectionsFrom k pieces) p → expand p = expand' p) :
    renderPieces f o expand k pieces = renderPieces f o expand' k pieces := by
  induction pieces generalizing k with
  | nil => rfl
  | cons piece rest ih =>
    cases piece with
    | literal c => rw [renderPieces_literal, renderPieces_literal, ih h]
    | directive s =>
      rw [Template.sectionsFrom] at h
      have hs : renderSection f o expand k s = renderSection f o expand' k s :=
        renderSection_congr (fun p hp => h p
          ⟨[], k, s, _, rfl, by simp, Section.known?_preferred_iff.mpr hp⟩) k
      rw [renderPieces_directive, renderPieces_directive, ← hs]
      cases hd : renderSection f o expand k s with
      | error e => rfl
      | ok d =>
        have hr (p : Preferred)
            (hp : Meets f o expand (Template.sectionsFrom (k + s.text.length) rest) p) :
            expand p = expand' p := by
          obtain ⟨before, j, e, after, hx, hb, he⟩ := hp
          refine h p ⟨(k, s) :: before, j, e, after, by rw [hx]; rfl, ?_, he⟩
          rw [List.forall_mem_cons]
          exact ⟨⟨d, hd⟩, hb⟩
        rw [ih hr]

/-- The outcome of a call is settled by the calls that it makes. -/
theorem outcome_eq_joined {c : Call} (hc : ∀ p, p ∉ c.free → expand' p = .error (.cyclic p))
    (h : ∀ p c', c.Expands f o p c' → expand' p = c'.outcome f o) :
    c.outcome f o = joined f o expand' 0 (Template.read c.template) := by
  rw [outcome, renderWithin_eq, joined, joined]
  congr 1
  refine renderPieces_meets fun p hp => ?_
  by_cases hm : p ∈ c.free
  · rw [h p _ ⟨hp, hm, rfl⟩, expansion, if_pos hm]
    rfl
  · rw [hc p hm, expansion, if_neg hm]

end Call

/-- The evaluation that is cut off: a chain has at most the given number of calls, and those beyond are
answered by `cut`. -/
def renderCut (f : Fields) (o : Options) (cut : Call → Outcome Text) : Nat → Call → Outcome Text
  | 0, c => cut c
  | depth + 1, c =>
    joined f o
      (fun p => if p ∈ c.free then renderCut f o cut depth (c.within o p) else .error (.cyclic p)) 0
      (Template.read c.template)

theorem renderCut_eq_outcome (f : Fields) (o : Options) (cut : Call → Outcome Text) {depth : Nat}
    {c : Call} (h : c.free.length < depth) : renderCut f o cut depth c = c.outcome f o := by
  induction depth generalizing c with
  | zero => exact absurd h (Nat.not_lt_zero _)
  | succ depth ih =>
    rw [renderCut]
    refine (Call.outcome_eq_joined (fun p hp => if_neg hp) fun p c' he => ?_).symm
    obtain ⟨-, hp, rfl⟩ := he
    have hl : (c.within o p).free.length + 1 = c.free.length := by
      have := List.length_pos_of_mem hp
      rw [Call.within, List.length_erase_of_mem hp]
      omega
    rw [if_pos hp, ih (by omega)]

/-- A rendering ends, whatever the templates refer to. On each chain of nested calls the directives
being expanded are distinct, so there are at most three below the first call; an evaluation that is
cut off below them has the same outcome; and each turn of a scan moves forward. -/
theorem render_bounded (t : Text) (v : Value) (o : Options) :
    (∀ f, Fields.ofValue v = .ok f → ∀ ps c, Call.Chain f o ⟨Preferred.all, t⟩ ps c →
      ps.Nodup ∧ ps.length ≤ 3) ∧
    (∀ (cut : Call → Outcome Text) (depth : Nat), 3 < depth →
      render (.text t) v o = (do
        renderCut (← Fields.ofValue v) o cut depth ⟨Preferred.all, t⟩)) ∧
    ∀ u, Template.Turns u 0 (Template.sections u) ∧
      ∀ i k, Template.percentFrom? u i = some k →
        ∃ (j : Nat) (s : Section), sectionAt u k = .ok ⟨s, j, s.text⟩ ∧ i ≤ k ∧ k < j ∧
          j ≤ u.length := by
  refine ⟨fun f _ ps c h => ?_, fun cut depth hd => ?_, fun u => ⟨?_, fun i k h => ?_⟩⟩
  · exact ⟨(h.nodup Preferred.nodup_all).1, h.length_le Preferred.nodup_all⟩
  · cases hf : Fields.ofValue v with
    | error e => rw [render, hf]; rfl
    | ok f => rw [render_eq_renderWithin hf, ok_bind, renderCut_eq_outcome f o cut hd]; rfl
  · exact Template.turns_from u 0
  · exact Template.turn_advances h

/-- Three templates that refer to each other in a circle: the chain of three nested expansions exists,
and the fourth is not made, so no cut shows. -/
theorem render_bounded_circle :
    let v : Value := .datum (.record [])
    let o : Options := { Options.default with
      preferredDateTime := "%x".toList
      preferredDate := "%9X".toList
      preferredTime := "- %-c".toList }
    (∃ f c, Fields.ofValue v = .ok f ∧
      Call.Chain f o ⟨Preferred.all, "%c".toList⟩ [.datetime, .date, .time] c ∧
      [Preferred.datetime, .date, .time].length ≤ 3) ∧
    render (.text "%c".toList) v o = .error (.cyclic .datetime) ∧
    ∃ (j : Nat) (s : Section), sectionAt "- %-c".toList 2 = .ok ⟨s, j, s.text⟩ ∧ 0 ≤ 2 ∧ 2 < j ∧
      j ≤ "- %-c".toList.length := by
  intro v o
  obtain ⟨hc, hr, hs⟩ := render_bounded "%c".toList v o
  have meets {f : Fields} {expand : Preferred → Outcome Text} {k : Nat} {s : Section}
      {p : Preferred} (hs : s.known? = some (.preferred p)) : Call.Meets f o expand [(k, s)] p :=
    ⟨[], k, s, [], rfl, by simp, hs⟩
  refine ⟨⟨_, ⟨[], "- %-c".toList⟩, rfl, ?_⟩, ?_, (hs _).2 0 2 rfl⟩
  · have h : Call.Chain (Fields.ofEntries (.text v.kind) []) o ⟨Preferred.all, "%c".toList⟩
        [.datetime, .date, .time] ⟨[], "- %-c".toList⟩ :=
      .cons ⟨meets (k := 0) (s := ⟨none, [], some 'c'⟩) rfl, by decide, rfl⟩
        (.cons ⟨meets (k := 0) (s := ⟨none, [], some 'x'⟩) rfl, by decide, rfl⟩
          (.cons ⟨meets (k := 0) (s := ⟨none, ['9'], some 'X'⟩) rfl, by decide, rfl⟩ (.nil _)))
    exact ⟨h, (hc _ rfl _ _ h).2⟩
  · rw [hr (fun _ => .error .frozen) 4 (by decide)]
    rfl

end CalendarText
