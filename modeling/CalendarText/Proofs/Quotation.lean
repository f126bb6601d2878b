import CalendarText.Text.Quoted
import CalendarText.Proofs.Digits

/-! Texts in quotes, read back. The character that an escape stands for is known without what
follows it, and no character between the quotes is written with a quote in front, so that a text is
known from its quoted form and the end of the quoted form from whatever may follow. -/

namespace CalendarText

def hexDigit (c : Char) : Nat :=
  if isDecimalDigit c then c.toNat - '0'.toNat else c.toNat - 'a'.toNat + 10

def hexValue (digits : Text) : Nat :=
  digits.foldl (fun n c => 16 * n + hexDigit c) 0

theorem hexDigit_digitChar : ∀ n < 16, hexDigit n.digitChar = n := by
  decide

theorem hexValue_concat (t : Text) (c : Char) :
    hexValue (t ++ [c]) = 16 * hexValue t + hexDigit c := by
  simp [hexValue]

theorem hexValue_toDigits (n : Nat) : hexValue (Nat.toDigits 16 n) = n := by
  induction n using Nat.strongRecOn with
  | ind n ih =>
    rw [Nat.toDigits_eq_if (by decide)]
    split
    · simpa [hexValue] using hexDigit_digitChar n ‹_›
    · rw [hexValue_concat, ih _ (by omega), hexDigit_digitChar _ (Nat.mod_lt n (by decide))]
      omega

theorem hexValue_padLeading (t : Text) (width : Int) :
    hexValue (padLeading t width zeroFill) = hexValue t := by
  have hz (n : Nat) : hexValue (List.replicate n '0' ++ t) = hexValue t := by
    induction n with
    | zero => rfl
    | succ n ih => exact ih
  rw [padLeading_zeroFill, hz]

/-- The character with the code point that so many hexadecimal digits spell, and what follows. -/
def readCode (k : Nat) (t : Text) : Char × Text :=
  (Char.ofNat (hexValue (t.take k)), t.drop k)

/-- The character that an escape stands for, read after its backslash, and what follows. -/
def readEscape : Text → Option (Char × Text)
  | [] => none
  | c :: t =>
    if c = 'n' then some ('\n', t)
    else if c = 'r' then some ('\r', t)
    else if c = 't' then some ('\t', t)
    else if c = 'x' then some (readCode 2 t)
    else if c = 'u' then some (readCode 4 t)
    else if c = 'U' then some (readCode 8 t)
    else some (c, t)

def readQuotedChar : Text → Option (Char × Text)
  | [] => none
  | c :: t => if c = '\\' then readEscape t else some (c, t)

theorem readCode_padded {c : Char} {k : Nat} (hk : 0 < k) (hc : c.toNat < 16 ^ k) (s : Text) :
    readCode k (padLeading (Nat.toDigits 16 c.toNat) k zeroFill ++ s) = (c, s) := by
  have hl := length_padded_digits (by decide) hk hc
  rw [readCode, List.take_left' hl, List.drop_left' hl, hexValue_padLeading, hexValue_toDigits,
    Char.ofNat_toNat]

theorem readEscape_codePointEscape (c : Char) (s : Text) :
    readEscape (codePointEscape c ++ s) = some (c, s) := by
  have hc : c.toNat < 16 ^ 8 := c.val.toNat_lt
  unfold codePointEscape
  split
  · exact congrArg some (readCode_padded (by decide) ‹_› s)
  split
  · exact congrArg some (readCode_padded (by decide) ‹_› s)
  · exact congrArg some (readCode_padded (by decide) hc s)

section

variable {mark : Char} (hm : mark = singleQuote ∨ mark = doubleQuote)

include hm

theorem readQuotedChar_quotedChar (c : Char) (s : Text) :
    readQuotedChar (quotedChar mark c ++ s) = some (c, s) := by
  unfold quotedChar
  split
  · rename_i h
    -- Neither a quote nor a backslash is the letter of an escape, so either stands for itself.
    rcases h with rfl | rfl
    · rcases hm with rfl | rfl <;> rfl
    · rfl
  · rename_i hq
    split
    · subst c; rfl
    split
    · subst c; rfl
    split
    · subst c; rfl
    split
    · have hb : c ≠ '\\' := fun h => hq (.inr h)
      exact if_neg hb
    · exact readEscape_codePointEscape c s

theorem quotedChar_append_inj {c d : Char} {s t : Text}
    (h : quotedChar mark c ++ s = quotedChar mark d ++ t) : c = d ∧ s = t := by
  have hr := congrArg readQuotedChar h
  rw [readQuotedChar_quotedChar hm, readQuotedChar_quotedChar hm] at hr
  simpa using hr

theorem quotedChar_append_ne (c : Char) (s t : Text) : quotedChar mark c ++ s ≠ mark :: t := by
  have hb : '\\' ≠ mark := by
    rcases hm with rfl | rfl <;> decide
  unfold quotedChar
  split
  · exact fun h => hb (List.cons.inj h).1
  · rename_i hq
    repeat' split
    all_goals intro h
    all_goals first
      | exact hb (List.cons.inj h).1
      | exact hq (.inl (List.cons.inj h).1)

theorem quotedChars_append_inj {t u s s' : Text}
    (h : t.flatMap (quotedChar mark) ++ mark :: s = u.flatMap (quotedChar mark) ++ mark :: s') :
    t = u ∧ s = s' := by
  induction t generalizing u with
  | nil =>
    cases u with
    | nil => exact ⟨rfl, (List.cons.inj h).2⟩
    | cons d u =>
      rw [List.flatMap_cons, List.append_assoc] at h
      exact absurd h.symm (quotedChar_append_ne hm d _ s)
  | cons c t ih =>
    rw [List.flatMap_cons, List.append_assoc] at h
    cases u with
    | nil => exact absurd h (quotedChar_append_ne hm c _ s')
    | cons d u =>
      rw [List.flatMap_cons, List.append_assoc] at h
      obtain ⟨rfl, hr⟩ := quotedChar_append_inj hm h
      obtain ⟨rfl, hs⟩ := ih hr
      exact ⟨rfl, hs⟩

end

theorem quoteMark_eq (t : Text) : quoteMark t = singleQuote ∨ quoteMark t = doubleQuote := by
  unfold quoteMark
  split
  · exact .inr rfl
  · exact .inl rfl

theorem quoted_append_inj {t u s s' : Text} (h : quoted t ++ s = quoted u ++ s') :
    t = u ∧ s = s' := by
  simp only [quoted, List.cons_append, List.append_assoc, List.nil_append] at h
  -- The first character tells which quote is in use, in both texts.
  obtain ⟨hm, hr⟩ := List.cons.inj h
  rw [← hm] at hr
  exact quotedChars_append_inj (quoteMark_eq t) hr

end CalendarText
