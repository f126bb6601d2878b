import CalendarText.Section

/-! Sections of templates that may not be texts. A list is read item by item, as a text is read
character by character, and what stands in the place of the directive is taken as it is. -/

namespace CalendarText

namespace Section

/-- The section with one more modifier item, if the item can be one at this point. Only texts can be
compared with digits, and a longer text that lies between two digits is no digit. -/
def extendData? (s : Section) (item : Datum) : Outcome (Option Section) :=
  match item with
  | .text [c] => .ok (s.extend? c)
  | .text (c :: _) => if '0' ≤ c ∧ c < '9' then .error .wrongKind else .ok none
  | .text [] => .ok none
  | _ => .error .wrongKind

/-- Reads on from a section that is not closed yet. -/
def readData (s : Section) : List Datum → Outcome (Section × Option Datum × List Datum)
  | [] => .ok (s, none, [])
  | item :: rest => do
    match ← s.extendData? item with
    | some t => t.readData rest
    | none => return (s, some item, rest)

end Section

/-- A section found in a template of any kind: the modifiers, the directive, the position after it
and the part of the template that it takes up. -/
structure LocatedData where
  written : Section
  directive : Datum
  stop : Int
  part : Datum

/-- The section that opens at a position of a template. A record has no positions, which is found
out in one of two ways. -/
def sectionInData (template start : Datum) : Outcome LocatedData := do
  match template with
  | .text t =>
    let first ← start.toWhole
    let found ← sectionAt t first
    return ⟨found.written, (found.written.directive.map fun c => Datum.text [c]).getD .null,
      found.stop, .text found.text⟩
  | .list items =>
    let first ← start.toWhole
    let after ← readingFrom items (first + 1)
    let (written, directive, rest) ← Section.opened.readData after
    let stop := first + 1 + (after.length - rest.length : Nat)
    return ⟨written, directive.getD .null, stop, .list (partBetween items first stop)⟩
  | .record entries =>
    if (← start.toWhole) + 1 < entries.length then .error .noKey else .error .wrongKind
  | _ => .error .wrongKind

end CalendarText
