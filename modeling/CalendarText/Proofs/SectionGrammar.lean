import CalendarText.Proofs.Scanning
import Mathlib.Data.Nat.Digits.Defs

/-! The grammar of directive sections. A section of the grammar is read as it is written, wherever it
stands and whatever follows it, and a percent sign opens exactly one of them. -/

namespace CalendarText

/-- The value of a run of digits is that of its digits in base ten, the last one counting units. -/
theorem numeralValue_eq_ofDigits (t : Text) :
    numeralValue t = Nat.ofDigits 10 (t.reverse.map fun c => c.toNat - '0'.toNat) := by
  induction t using List.reverseRecOn with
  | nil => rfl
  | append_singleton t c ih =>
    rw [numeralValue_concat, ih, List.reverse_concat, List.map_cons, Nat.ofDigits_cons,
      Nat.add_comm]

namespace Section

/-- A section as the grammar has it: a selector or none, a run of digits, and a character that is no
further modifier, or no character where the template ends. -/
structure Grammatical (s : Section) : Prop where
  digits : IsDigits s.digits
  leading : s.selector = none → s.digits.head? ≠ some '0'
  directive : ∀ c ∈ s.directive, isDecimalDigit c = false ∧
    (s.selector = none → s.digits = [] → ∀ x : Selector, c ≠ x.letter)

/-- The section takes up the template from a position on, and to its end when no directive closes
it. -/
def StandsAt (s : Section) (t : Text) (k : Nat) : Prop :=
  ∃ before after, t = before ++ s.text ++ after ∧ before.length = k ∧
    (s.directive = none → after = [])

theorem extend?_eq_none_iff {s : Section} {c : Char} :
    s.extend? c = none ↔ isDecimalDigit c = false ∧
      (s.selector = none → s.digits = [] → ∀ x : Selector, c ≠ x.letter) := by
  have hn : Selector.ofLetter? c = none ↔ ∀ x : Selector, c ≠ x.letter := by
    simp only [Option.eq_none_iff_forall_ne_some, ne_eq, Selector.ofLetter?_eq_some_iff]
  by_cases hs : s.selector = none ∧ s.digits = []
  · rw [extend?, if_pos hs]
    simp only [hs, forall_const, ← hn]
    cases Selector.ofLetter? c <;> simp
  · have hv : s.selector = none → s.digits = [] → ∀ x : Selector, c ≠ x.letter :=
      fun h1 h2 => absurd ⟨h1, h2⟩ hs
    rw [extend?, if_neg hs]
    cases isDecimalDigit c with
    | true => simp
    | false => exact ⟨fun _ => ⟨rfl, hv⟩, fun _ => rfl⟩

theorem Grammatical.extend? {s e : Section} {c : Char} (hs : s.Grammatical)
    (hn : s.directive = none) (h : s.extend? c = some e) : e.Grammatical := by
  unfold Section.extend? at h
  split at h
  · obtain rfl := Option.some.inj h
    exact ⟨hs.digits, by simp, by simp [hn]⟩
  · rename_i hx
    split at h
    · rename_i hd
      obtain rfl := Option.some.inj h
      have hl : IsDigits [c] := isDigits_cons.mpr ⟨hd, by simp [IsDigits]⟩
      refine ⟨isDigits_append.mpr ⟨hs.digits, hl⟩, fun hn => ?_, by simp [hn]⟩
      -- A first digit zero would have been taken for a selector.
      cases hl : s.digits with
      | nil =>
        rw [if_pos ⟨hn, hl⟩] at hx
        intro hz
        obtain rfl : c = '0' := by simpa using hz
        exact absurd hx (by decide)
      | cons a rest => simpa [hl] using hs.leading hn
    · exact absurd h (by simp)

/-- What is read from an open section of the grammar is a section of the grammar, which ends only
where the text does when it finds no directive. -/
theorem Grammatical.read {s : Section} (hs : s.Grammatical) (hn : s.directive = none) (t : Text) :
    (s.read t).1.Grammatical ∧ ((s.read t).1.directive = none → (s.read t).2 = []) := by
  induction t generalizing s with
  | nil => exact ⟨hs, fun _ => rfl⟩
  | cons c rest ih =>
    unfold Section.read
    split
    · rename_i e he
      exact ih (hs.extend? hn he) ((extend?_directive he).trans hn)
    · rename_i he
      refine ⟨⟨hs.digits, hs.leading, fun d hd => ?_⟩, by simp⟩
      obtain rfl := Option.some.inj hd
      exact (extend?_eq_none_iff (s := s)).mp he

theorem grammatical_opened : opened.Grammatical :=
  ⟨by simp [opened, IsDigits], by simp [opened], by simp [opened]⟩

/-- A section of the grammar is read as it is written. -/
theorem Grammatical.read_text {s : Section} (hs : s.Grammatical) {rest : Text}
    (hr : s.directive = none → rest = []) :
    opened.read (s.modifierText ++ (s.directive.toList ++ rest)) = (s, rest) := by
  rw [read_modifierText hs.digits hs.leading]
  cases hd : s.directive with
  | none =>
    have he : { s with directive := none } = s := by rw [← hd]
    rw [hr hd, he]
    rfl
  | some c => exact read_closing hd (extend?_eq_none_iff.mpr (hs.directive c hd)) rest

theorem length_text (s : Section) :
    s.text.length =
      1 + s.selector.toList.length + s.digits.length + s.directive.toList.length := by
  cases hs : s.selector <;>
    simp only [text, modifierText, hs, Option.map_none, Option.map_some, Option.toList_none,
      Option.toList_some, List.length_append, List.length_cons, List.length_nil] <;> omega

/-- A section of the grammar is found where it stands. -/
theorem Grammatical.sectionAt {s : Section} (hs : s.Grammatical) {t : Text} {k : Nat}
    (h : s.StandsAt t k) : sectionAt t k = .ok ⟨s, (k + s.text.length : Nat), s.text⟩ := by
  obtain ⟨before, after, rfl, rfl, ha⟩ := h
  have hd : (before ++ s.text ++ after).drop before.length =
      '%' :: (s.modifierText ++ (s.directive.toList ++ after)) := by
    rw [List.append_assoc, List.drop_left]
    simp [text]
  obtain ⟨hl, -, -⟩ := sectionAt_percent hd
  rwa [hs.read_text ha] at hl

end Section

theorem Template.read_section {s : Section} (hs : s.Grammatical) (hd : s.directive ≠ none)
    (rest : Text) : Template.read (s.text ++ rest) = .directive s :: Template.read rest := by
  have ht : s.text ++ rest = '%' :: (s.modifierText ++ (s.directive.toList ++ rest)) := by
    simp [Section.text]
  rw [ht, Template.read, Template.scan, if_pos rfl, Template.scan_read rfl,
    hs.read_text fun hn => absurd hn hd]
  rfl

/-- A percent sign opens a section of the grammar. -/
theorem exists_standsAt {t : Text} {k : Nat} (h : t[k]? = some '%') :
    ∃ s : Section, s.Grammatical ∧ s.StandsAt t k := by
  obtain ⟨hk, hc⟩ := List.getElem?_eq_some_iff.mp h
  have hd : t.drop k = '%' :: t.drop (k + 1) := by rw [List.drop_eq_getElem_cons hk, hc]
  obtain ⟨hg, ha⟩ := Section.grammatical_opened.read rfl (t.drop (k + 1))
  have ht : (Section.opened.read (t.drop (k + 1))).1.text ++
      (Section.opened.read (t.drop (k + 1))).2 = t.drop k := by
    rw [Section.text_read rfl, hd]
    rfl
  refine ⟨_, hg, t.take k, _, ?_, ?_, ha⟩
  · rw [List.append_assoc, ht, List.take_append_drop]
  · rw [List.length_take, Nat.min_eq_left (Nat.le_of_lt hk)]

/-- What is reported of a section is what is written: its directive, the fill that its selector
stands for, its width in base ten unless there are no digits or no padding is asked for, the
position behind it and its text. -/
structure Located.Reports (l : Located) (s : Section) (start : Nat) : Prop where
  directive : l.written.directive = s.directive
  fill : l.written.fill? = s.selector.map fun
    | .bare => []
    | .zeros => ['0']
    | .spaces => [' ']
  width : l.written.width? =
    if s.digits = [] then none
    else if s.selector = some .bare then some 0
    else some (Nat.ofDigits 10 (s.digits.reverse.map fun c => c.toNat - '0'.toNat))
  stop : l.stop =
    (start + 1 + s.selector.toList.length + s.digits.length + s.directive.toList.length : Nat)
  text : l.text =
    '%' :: ((s.selector.map (·.letter)).toList ++ s.digits ++ s.directive.toList)

end CalendarText
