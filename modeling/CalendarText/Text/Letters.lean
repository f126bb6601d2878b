import CalendarText.Text.LetterTables

/-! Upper and lower case of whole texts. A letter may map to several characters, and a capital
sigma becomes a final sigma where it ends a word: after a cased letter, not before one, marks
in between not counting. -/

namespace CalendarText

def LetterRun.covers (r : LetterRun) (n : Nat) : Bool :=
  r.first ≤ n && n ≤ r.last && (n - r.first) % r.step == 0

/-- The character a run table gives for `c`; a character outside every run keeps its case. -/
def shiftLetter (runs : List LetterRun) (c : Char) : Char :=
  match runs.find? (·.covers c.toNat) with
  | some r => Char.ofNat (c.toNat + r.distance).toNat
  | none => c

def mapLetter (longer : List (Nat × List Nat)) (runs : List LetterRun) (c : Char) : Text :=
  match longer.lookup c.toNat with
  | some codes => codes.map Char.ofNat
  | none => [shiftLetter runs c]

def upperLetter : Char → Text :=
  mapLetter longUppers upperRuns

def lowerLetter : Char → Text :=
  mapLetter longLowers lowerRuns

def isCased (c : Char) : Bool :=
  inRanges casedLetters c

def isCaseIgnorable (c : Char) : Bool :=
  inRanges caseIgnorableLow c || inRanges caseIgnorableHigh c

/-- The first character that counts for a sigma, read away from it, is a cased letter. -/
def meetsCased (away : Text) : Bool :=
  match away.dropWhile isCaseIgnorable with
  | [] => false
  | c :: _ => isCased c

/-- The lower case of a text that follows the given characters, nearest first. -/
def lowerAfter (before : Text) : Text → Text
  | [] => []
  | c :: rest =>
    (if c = 'Σ' then [if meetsCased before && !meetsCased rest then 'ς' else 'σ']
      else lowerLetter c) ++ lowerAfter (c :: before) rest

def upperText (t : Text) : Text :=
  t.flatMap upperLetter

def lowerText (t : Text) : Text :=
  lowerAfter [] t

end CalendarText
