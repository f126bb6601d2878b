import CalendarText.Number

/-! Left padding of data that may not be texts, by widths and fills that may not be numbers and
texts. What is long enough passes whatever it is; to be filled up, it has to be a sequence of the
kind of the fill. For texts the padding is that of texts. -/

namespace CalendarText

/-- Copies of a fill in front of a sequence of its kind. -/
def fillUp (d fill : Datum) (missing : Number) : Outcome Datum :=
  match missing, fill, d with
  | .whole n, .text f, .text t => .ok (.text ((List.replicate n.toNat f).flatten ++ t))
  | .whole n, .list f, .list t => .ok (.list ((List.replicate n.toNat f).flatten ++ t))
  | .whole n, .tuple f, .tuple t => .ok (.tuple ((List.replicate n.toNat f).flatten ++ t))
  | _, _, _ => .error .wrongKind

/-- A datum brought to a width, which does not have to be a number. -/
def padItem (d width fill : Datum) : Outcome Datum := do
  match d.size? with
  | none => .error .wrongKind
  | some size =>
    let missing ← (← width.toNumber).sub (.whole size)
    if missing.le (.whole 0) || fill.sameScalar (.text noFill) then return d
    else fillUp d fill missing

/-- A text after its sign. -/
def Datum.afterSign (d : Datum) (sign : Char) : Outcome Datum :=
  match d with
  | .text t => .ok (.text (sign :: t))
  | _ => .error .wrongKind

/-- The plain text of a datum that is a number, brought to a width after its sign. -/
def padNumberItem (d width fill : Datum) : Outcome Datum := do
  let n ← d.toNumber
  if n.lt (.whole 0) then
    (← padItem (.text (← n.abs.written)) width fill).afterSign '-'
  else padItem (.text (← d.written)) width fill

/-- Whole numbers are padded as numbers and all else as it is. -/
def padDatum (d width fill : Datum) : Outcome Datum :=
  match d with
  | .whole _ => padNumberItem d width fill
  | d => padItem d width fill

theorem sameScalar_text (s t : Text) : (Datum.text s).sameScalar (.text t) = (s == t) := rfl

@[simp] theorem padItem_text (t : Text) (width : Int) (fill : Text) :
    padItem (.text t) (.ofInt width) (.text fill) = .ok (.text (padLeading t width fill)) := by
  simp only [padItem, Datum.size?, Datum.ofInt, Datum.toNumber_whole, Whole.toInt_number, bind,
    Except.bind, pure, Except.pure, Number.sub_whole, Number.le_whole, sameScalar_text]
  split
  · rename_i h
    simp only [Bool.or_eq_true, decide_eq_true_eq, beq_iff_eq] at h
    rcases h with h | rfl
    · rw [padLeading_of_le fill (by omega)]
    · simp [noFill]
  · rfl

/-- A whole value is padded as a number if it can be written at all. -/
theorem padNumberItem_whole (w : Whole) (width : Int) (fill : Text) :
    padNumberItem (.whole w) (.ofInt width) (.text fill) =
      if w.isWritable then .ok (.text (padNumber w width fill)) else .error .tooLong := by
  simp only [padNumberItem, Datum.toNumber_whole, bind, Except.bind, Number.lt_whole,
    decide_eq_true_eq, padNumber]
  by_cases hw : w.toInt < 0
  · obtain ⟨n, rfl⟩ := Whole.eq_number_of_neg hw
    have hn : n < 0 := hw
    simp only [Whole.toInt_number, hn, if_true, Number.abs, Number.written, isShort_natAbs,
      Whole.isWritable_number]
    by_cases hs : isShort n = true
    · simp only [hs, if_true, signedNumeral_natCast, padItem_text, Datum.afterSign]
    · simp only [hs, if_false, Bool.false_eq_true]
  · simp only [hw, if_false, Datum.written_whole]
    by_cases hs : w.isWritable = true
    · simp only [hs, if_true, padItem_text]
    · simp only [hs, if_false, Bool.false_eq_true]

theorem padDatum_whole (w : Whole) (width : Int) (fill : Text) :
    padDatum (.whole w) (.ofInt width) (.text fill) =
      if w.isWritable then .ok (.text (padNumber w width fill)) else .error .tooLong :=
  padNumberItem_whole w width fill

theorem padDatum_whole_of_isWritable {w : Whole} (h : w.isWritable = true) (width : Int)
    (fill : Text) :
    padDatum (.whole w) (.ofInt width) (.text fill) = .ok (.text (padNumber w width fill)) := by
  rw [padDatum_whole, if_pos h]

end CalendarText
