import CalendarText.Whole

/-! Left padding. A text is brought to a width by repeating a fill in front of it, once for each
missing character; a minus sign stays in front of the fill. -/

namespace CalendarText

/-- The fill that stands for no padding at all. -/
def noFill : Text := []

def zeroFill : Text := ['0']

def spaceFill : Text := [' ']

/-- The copies of the fill that bring a text of the given length to the width. -/
def padding (length : Nat) (width : Int) (fill : Text) : Text :=
  (List.replicate (width - length).toNat fill).flatten

/-- Text already at or beyond the width is unchanged, as is any text when the fill is empty. -/
def padLeading (t : Text) (width : Int) (fill : Text) : Text :=
  padding t.length width fill ++ t

/-- The sign of a negative number stands before the padding, so its digits alone fill the
width. -/
def padNumber (w : Whole) (width : Int) (fill : Text) : Text :=
  if w.toInt < 0 then '-' :: padLeading (numeral w.toInt.natAbs) width fill
  else padLeading w.plain width fill

@[simp] theorem padding_noFill (length : Nat) (width : Int) : padding length width [] = [] := by
  simp [padding]

theorem padding_of_le {length : Nat} {width : Int} (fill : Text) (h : width ≤ length) :
    padding length width fill = [] := by
  simp [padding, Int.toNat_of_nonpos (show width - length ≤ 0 by omega)]

theorem padLeading_of_le {t : Text} {width : Int} (fill : Text) (h : width ≤ t.length) :
    padLeading t width fill = t := by
  simp [padLeading, padding_of_le fill h]

@[simp] theorem padLeading_noFill (t : Text) (width : Int) : padLeading t width [] = t := by
  simp [padLeading]

theorem padLeading_single (t : Text) (width : Int) (c : Char) :
    padLeading t width [c] = List.replicate (width - t.length).toNat c ++ t := by
  simp [padLeading, padding]

/-- A fill of one character makes the text exactly as long as the width asks. -/
theorem length_padLeading_single (t : Text) (width : Int) (c : Char) :
    ((padLeading t width [c]).length : Int) = max width t.length := by
  simp [padLeading, padding]
  omega

end CalendarText
