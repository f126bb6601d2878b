import CalendarText.Proofs.Digits
import CalendarText.Proofs.Outcomes
import CalendarText.Proofs.Seams

/-! Templates scanned by positions. Each turn of the scan looks for the next percent sign, reads the
section that opens there and goes on behind it. The turns end, and the sections they read are those
of the template. -/

namespace CalendarText

namespace Section

theorem length_text_pos (s : Section) : 0 < s.text.length :=
  Nat.succ_pos _

/-- No digit is a selector, but for a zero right after the percent sign. -/
theorem extend?_digit {s : Section} {c : Char} (hc : isDecimalDigit c = true)
    (h : s.selector = none → s.digits = [] → c ≠ '0') :
    s.extend? c = some { s with digits := s.digits ++ [c] } := by
  have hn : (if s.selector = none ∧ s.digits = [] then Selector.ofLetter? c else none) = none := by
    split
    · rename_i hs
      rw [Option.eq_none_iff_forall_ne_some]
      intro x hx
      rw [Selector.ofLetter?_eq_some_iff] at hx
      cases x with
      | zeros => exact h hs.1 hs.2 hx
      | bare | spaces => exact absurd hc (by rw [hx]; decide)
    · rfl
  simp only [extend?, hn, hc, if_true]

theorem read_digits {s : Section} {digits : Text} (hd : IsDigits digits)
    (h : s.selector = none → s.digits = [] → digits.head? ≠ some '0') (rest : Text) :
    s.read (digits ++ rest) = { s with digits := s.digits ++ digits }.read rest := by
  induction digits generalizing s with
  | nil => rw [List.append_nil, List.nil_append]
  | cons c digits ih =>
    obtain ⟨hc, hr⟩ := isDigits_cons.mp hd
    have he := extend?_digit (s := s) hc fun hs hn hz => h hs hn (by rw [hz]; rfl)
    rw [List.cons_append, read, he]
    simp only [ih hr (s := { s with digits := s.digits ++ [c] }) (by simp), List.append_assoc,
      List.singleton_append]

/-- The modifiers of a section are read as they are written, and the reading goes on behind them. -/
theorem read_modifierText {s : Section} (hd : IsDigits s.digits)
    (hz : s.selector = none → s.digits.head? ≠ some '0') (rest : Text) :
    opened.read (s.modifierText ++ rest) = { s with directive := none }.read rest := by
  obtain ⟨selector, digits, directive⟩ := s
  have hr (x : Option Selector) (hx : x = none → digits.head? ≠ some '0') :
      read ⟨x, [], none⟩ (digits ++ rest) = read ⟨x, digits, none⟩ rest :=
    read_digits (s := ⟨x, [], none⟩) hd (fun h _ => hx h) rest
  cases selector with
  | none => exact hr none hz
  | some x =>
    have he : opened.extend? x.letter = some ⟨some x, [], none⟩ := by
      cases x <;> rfl
    simp only [modifierText, Option.map_some, Option.toList_some, List.cons_append, read, he]
    exact hr (some x) (by simp)

/-- A character that is no modifier where it stands closes the section. -/
theorem read_closing {s : Section} {c : Char} (hc : s.directive = some c)
    (hn : { s with directive := none }.extend? c = none) (rest : Text) :
    { s with directive := none }.read (c :: rest) = (s, rest) := by
  obtain ⟨selector, digits, directive⟩ := s
  obtain rfl : directive = some c := hc
  simp only [read, hn]

end Section

namespace Template

/-- An open section is read to its end, and the scan goes on with what is left. -/
theorem scan_read {s : Section} (hs : s.directive = none) (t : Text) :
    scan (some s) t = .directive (s.read t).1 :: scan none (s.read t).2 := by
  induction t generalizing s with
  | nil => rfl
  | cons c rest ih =>
    cases he : s.extend? c with
    | some e => simp only [scan, Section.read, he, ih (by rw [Section.extend?_directive he, hs])]
    | none => simp only [scan, Section.read, he]

theorem scan_literals {p : Text} (hp : '%' ∉ p) (q : Text) :
    scan none (p ++ q) = p.map .literal ++ scan none q := by
  induction p with
  | nil => rfl
  | cons c rest ih =>
    obtain ⟨hc, hr⟩ := not_or.mp (mt List.mem_cons.mpr hp)
    simp only [List.cons_append, scan, if_neg (Ne.symm hc), ih hr, List.map_cons]

theorem sectionsFrom_literals (p : Text) (k : Nat) (pieces : List Piece) :
    sectionsFrom k (p.map .literal ++ pieces) = sectionsFrom (k + p.length) pieces := by
  induction p generalizing k with
  | nil => rfl
  | cons c rest ih =>
    simp only [List.map_cons, List.cons_append, sectionsFrom, ih, List.length_cons]
    congr 1
    omega

/-- The position of the first percent sign from a position on. -/
def percentFrom? (t : Text) (i : Nat) : Option Nat :=
  ((t.drop i).findIdx? (· == '%')).map (i + ·)

theorem percentFrom?_eq_none {t : Text} {i : Nat} (h : percentFrom? t i = none) :
    '%' ∉ t.drop i := by
  rw [percentFrom?, Option.map_eq_none_iff, List.findIdx?_eq_none_iff] at h
  exact fun hm => absurd (h '%' hm) (by simp)

theorem percentFrom?_eq_some {t : Text} {i k : Nat} (h : percentFrom? t i = some k) :
    ∃ before after, t.drop i = before ++ '%' :: after ∧ '%' ∉ before ∧ k = i + before.length := by
  rw [percentFrom?, Option.map_eq_some_iff] at h
  obtain ⟨n, hn, rfl⟩ := h
  obtain ⟨hl, hp, hb⟩ := List.findIdx?_eq_some_iff_getElem.mp hn
  refine ⟨(t.drop i).take n, (t.drop i).drop (n + 1), ?_, fun hm => ?_, ?_⟩
  · rw [← beq_iff_eq.mp hp, List.getElem_cons_drop, List.take_append_drop]
  · obtain ⟨j, hj, he⟩ := List.getElem_of_mem hm
    rw [List.getElem_take] at he
    rw [List.length_take] at hj
    exact hb j (by omega) (by rw [he]; rfl)
  · rw [List.length_take, Nat.min_eq_left (Nat.le_of_lt hl)]

end Template

/-- The section that opens at a percent sign stands there as it is written, and ends inside of the
template. -/
theorem sectionAt_percent {t after : Text} {k : Nat} (h : t.drop k = '%' :: after) :
    let s := (Section.opened.read after).1
    sectionAt t k = .ok ⟨s, (k + s.text.length : Nat), s.text⟩ ∧
      t.drop (k + s.text.length) = (Section.opened.read after).2 ∧
      k + s.text.length ≤ t.length := by
  intro s
  have hs : s.text ++ (Section.opened.read after).2 = '%' :: after :=
    Section.text_read rfl after
  have hl : s.text.length + (Section.opened.read after).2.length = after.length + 1 := by
    rw [← List.length_append, hs, List.length_cons]
  have ht : t.length - k = after.length + 1 := by
    rw [← List.length_drop, h, List.length_cons]
  have hp := s.length_text_pos
  have hd : t.drop (k + 1) = after := by
    rw [← List.drop_drop, h, List.drop_one, List.tail_cons]
  have hr : t.drop (k + s.text.length) = (Section.opened.read after).2 := by
    rw [← List.drop_drop, h, ← hs, List.drop_left]
  refine ⟨?_, hr, by omega⟩
  have hf : readingFrom t ((k : Int) + 1) = .ok after := by
    have hn : ((k : Int) + 1).toNat = k + 1 := by omega
    rw [readingFrom, if_pos (by omega), hn, hd]
  have hstop : (k : Int) + 1 + (after.length - (Section.opened.read after).2.length : Nat) =
      (k + s.text.length : Nat) := by omega
  have hpart : partBetween t k (k + s.text.length : Nat) = s.text := by
    have hk : ¬(k : Int) < 0 := by omega
    have hj : ¬((k + s.text.length : Nat) : Int) < 0 := by omega
    simp only [partBetween, hk, hj, if_false, Int.toNat_natCast, h, Nat.add_sub_cancel_left]
    rw [← hs, List.take_left]
  simp only [sectionAt, hf, ok_bind, hstop, hpart, pure_eq_ok]
  rfl

namespace Template

/-- The turns of a scan from a position on, with the sections they read. -/
inductive Turns (t : Text) : Nat → List (Nat × Section) → Prop
  | done {i : Nat} (hi : percentFrom? t i = none) : Turns t i []
  | turn {i k j : Nat} {s : Section} {rest : List (Nat × Section)}
      (hk : percentFrom? t i = some k) (hs : sectionAt t k = .ok ⟨s, j, s.text⟩)
      (hr : Turns t j rest) : Turns t i ((k, s) :: rest)

/-- A turn moves the scan forward, and never beyond the end of the template. -/
theorem turn_advances {t : Text} {i k : Nat} (h : percentFrom? t i = some k) :
    ∃ (j : Nat) (s : Section), sectionAt t k = .ok ⟨s, j, s.text⟩ ∧ i ≤ k ∧ k < j ∧
      j ≤ t.length := by
  obtain ⟨before, after, ht, hb, rfl⟩ := percentFrom?_eq_some h
  have hd : t.drop (i + before.length) = '%' :: after := by
    rw [← List.drop_drop, ht, List.drop_left]
  obtain ⟨hs, -, hl⟩ := sectionAt_percent hd
  have hp := (Section.opened.read after).1.length_text_pos
  exact ⟨_, _, hs, by omega, by omega, hl⟩

theorem turns_from (t : Text) (i : Nat) : Turns t i (sectionsFrom i (scan none (t.drop i))) := by
  -- The text that is left gets shorter with every turn.
  induction hn : (t.drop i).length using Nat.strongRecOn generalizing i with
  | ind n ih =>
    cases hk : percentFrom? t i with
    | none =>
      have hl := scan_literals (percentFrom?_eq_none hk) []
      rw [List.append_nil] at hl
      rw [hl, sectionsFrom_literals]
      exact .done hk
    | some k =>
      obtain ⟨before, after, ht, hb, rfl⟩ := percentFrom?_eq_some hk
      have hd : t.drop (i + before.length) = '%' :: after := by
        rw [← List.drop_drop, ht, List.drop_left]
      obtain ⟨hs, hr, hl⟩ := sectionAt_percent hd
      have hp := (Section.opened.read after).1.length_text_pos
      rw [ht, scan_literals hb, sectionsFrom_literals, scan, if_pos rfl, scan_read rfl, sectionsFrom,
        ← hr]
      refine .turn hk hs (ih _ ?_ _ rfl)
      rw [List.length_drop] at hn ⊢
      omega

end Template

end CalendarText
