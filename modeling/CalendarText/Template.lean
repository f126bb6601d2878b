import CalendarText.Section

/-! A template is read as a list of pieces in one pass: characters that stand for themselves and
directive sections. The pieces written one after the other are the template again. -/

namespace CalendarText

inductive Piece where
  | literal (c : Char)
  | directive (s : Section)
  deriving DecidableEq, Repr

namespace Piece

def text : Piece → Text
  | literal c => [c]
  | directive s => s.text

end Piece

namespace Template

/-- The pieces of a text, given the section that is still open where the text begins. -/
def scan : Option Section → Text → List Piece
  | none, [] => []
  | some s, [] => [.directive s]
  | none, c :: rest =>
    if c = '%' then scan (some .opened) rest else .literal c :: scan none rest
  | some s, c :: rest =>
    match s.extend? c with
    | some t => scan (some t) rest
    | none => .directive { s with directive := some c } :: scan none rest

def read (template : Text) : List Piece :=
  scan none template

/-- The text of pieces written one after the other. -/
def write (pieces : List Piece) : Text :=
  pieces.flatMap Piece.text

theorem write_scan (open? : Option Section) (h : ∀ s ∈ open?, s.directive = none) (t : Text) :
    write (scan open? t) = (match open? with | none => [] | some s => s.text) ++ t := by
  induction t generalizing open? with
  | nil => cases open? <;> simp [scan, write, Piece.text]
  | cons c rest ih =>
    cases open? with
    | none =>
      unfold scan
      split
      · rename_i hc
        rw [ih _ (by simp [Section.opened])]
        simp [hc, Section.text_opened]
      · simpa [write, Piece.text] using ih none (by simp)
    | some s =>
      have hs : s.directive = none := h s rfl
      unfold scan
      split
      · rename_i e he
        rw [ih _ (by simp [Section.extend?_directive he, hs])]
        simp [Section.text, Section.extend?_modifierText he, Section.extend?_directive he, hs]
      · have hr := ih none (by simp)
        simp only [write] at hr
        simp [write, Piece.text, hr, Section.text, Section.modifierText, hs]

/-- No character of a template is lost, added or read twice. -/
theorem write_read (template : Text) : write (read template) = template := by
  simpa [read] using write_scan none (by simp) template

end Template

end CalendarText
