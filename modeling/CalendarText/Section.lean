import CalendarText.Number

/-! A directive section is a percent sign, at most one pad selector, a run of decimal digits and the
directive's character, which is missing where the text ends. A zero right after the percent sign
is a selector; any later zero belongs to the width. -/

namespace CalendarText

inductive Selector where
  | bare
  | zeros
  | spaces
  deriving DecidableEq, Repr

namespace Selector

def letter : Selector → Char
  | bare => '-'
  | zeros => '0'
  | spaces => '_'

def fill : Selector → Text
  | bare => noFill
  | zeros => zeroFill
  | spaces => spaceFill

def ofLetter? : Char → Option Selector
  | '-' => some bare
  | '0' => some zeros
  | '_' => some spaces
  | _ => none

theorem ofLetter?_letter (s : Selector) : ofLetter? s.letter = some s := by
  cases s <;> rfl

theorem ofLetter?_eq_some_iff {c : Char} {s : Selector} :
    ofLetter? c = some s ↔ c = s.letter := by
  constructor
  · intro h
    unfold ofLetter? at h
    split at h <;> simp_all [letter] <;> subst h <;> rfl
  · rintro rfl
    exact ofLetter?_letter s

end Selector

structure Modifiers where
  width : Int
  fill : Text
  deriving DecidableEq, Repr

structure Section where
  selector : Option Selector
  digits : Text
  directive : Option Char
  deriving DecidableEq, Repr

namespace Section

/-- The section of which only the percent sign has been read. -/
def opened : Section := ⟨none, [], none⟩

def modifierText (s : Section) : Text :=
  (s.selector.map Selector.letter).toList ++ s.digits

def text (s : Section) : Text :=
  '%' :: s.modifierText ++ s.directive.toList

def fill? (s : Section) : Option Text :=
  s.selector.map Selector.fill

/-- The width that is written; no padding leaves no width either. -/
def width? (s : Section) : Option Nat :=
  if s.digits = [] then none
  else if s.selector = some .bare then some 0
  else some (numeralValue s.digits)

/-- The section with one more modifier character, if the character can be one at this point. -/
def extend? (s : Section) (c : Char) : Option Section :=
  match if s.selector = none ∧ s.digits = [] then Selector.ofLetter? c else none with
  | some selector => some { s with selector := some selector }
  | none => if isDecimalDigit c then some { s with digits := s.digits ++ [c] } else none

/-- Reads on from a section that is not closed yet; what is left follows the directive. -/
def read (s : Section) : Text → Section × Text
  | [] => (s, [])
  | c :: rest =>
    match s.extend? c with
    | some t => t.read rest
    | none => ({ s with directive := some c }, rest)

/-- The modifiers after defaults: first the fill, then the width, which no padding makes zero. -/
def resolve (s : Section) (defaultFill : Text) (defaultWidth : Int) : Modifiers :=
  let fill := s.fill?.getD defaultFill
  ⟨if fill = noFill then 0 else (s.width?.map Int.ofNat).getD defaultWidth, fill⟩

def resolveData (s : Section) (defaultFill defaultWidth : Datum) : Datum × Datum :=
  let fill := (s.fill?.map Datum.text).getD defaultFill
  (if fill.sameScalar (.text noFill) then .ofInt 0
    else (s.width?.map fun n => Datum.ofInt n).getD defaultWidth, fill)

theorem text_opened : opened.text = ['%'] := rfl

theorem extend?_directive {s t : Section} {c : Char} (h : s.extend? c = some t) :
    t.directive = s.directive := by
  unfold extend? at h
  split at h
  · obtain rfl := Option.some.inj h
    rfl
  · split at h
    · obtain rfl := Option.some.inj h
      rfl
    · exact absurd h (by simp)

theorem extend?_modifierText {s t : Section} {c : Char} (h : s.extend? c = some t) :
    t.modifierText = s.modifierText ++ [c] := by
  unfold extend? at h
  split at h
  · rename_i selector hs
    obtain rfl := Option.some.inj h
    split at hs
    · rename_i hn
      rw [Selector.ofLetter?_eq_some_iff] at hs
      simp [modifierText, hn, hs]
    · exact absurd hs (by simp)
  · split at h
    · obtain rfl := Option.some.inj h
      simp [modifierText]
    · exact absurd h (by simp)

/-- Reading loses nothing: the section and what is left make up the text that was there. -/
theorem text_read {s : Section} (hs : s.directive = none) (t : Text) :
    (s.read t).1.text ++ (s.read t).2 = s.text ++ t := by
  induction t generalizing s with
  | nil => simp [read]
  | cons c rest ih =>
    unfold read
    split
    · rename_i e he
      rw [ih (by rw [extend?_directive he, hs])]
      simp [text, extend?_modifierText he, extend?_directive he, hs]
    · simp [text, modifierText, hs]

end Section

structure Located where
  written : Section
  stop : Int
  text : Text
  deriving Repr

/-- What is read from a position on. From a negative position, which counts from the end, the
reading goes on at the start of the template when it has reached the end. -/
def readingFrom {α : Type} (template : List α) (position : Int) : Outcome (List α) :=
  if 0 ≤ position then .ok (template.drop position.toNat)
  else if -position ≤ template.length then
    .ok (template.drop (template.length + position).toNat ++ template)
  else .error .noEntry

/-- The part of a template between two positions, of which negative ones count from the end. -/
def partBetween {α : Type} (template : List α) (start stop : Int) : List α :=
  let fromStart (position : Int) : Nat :=
    (if position < 0 then template.length + position else position).toNat
  (template.drop (fromStart start)).take (fromStart stop - fromStart start)

/-- The section that opens at a position. Whatever stands at the position itself is taken for the
percent sign. -/
def sectionAt (template : Text) (start : Int) : Outcome Located := do
  let after ← readingFrom template (start + 1)
  let (written, rest) := Section.opened.read after
  let stop := start + 1 + (after.length - rest.length : Nat)
  return ⟨written, stop, partBetween template start stop⟩

end CalendarText
