import CalendarText.Template

/-! Where one template ends and the next begins. A template that leaves no section open is scanned
on its own, whatever follows it, and the position of a section is the length of what is written
in front of it. -/

namespace CalendarText.Template

/-- Scanning the template leaves no section without a directive. -/
def Complete (t : Text) : Prop :=
  ∀ s, Piece.directive s ∈ read t → s.directive ≠ none

instance (t : Text) : Decidable (Complete t) :=
  decidable_of_iff
    ((read t).all fun
      | .literal _ => true
      | .directive s => s.directive.isSome) <| by
    rw [List.all_eq_true]
    constructor
    · intro h s hs hn
      simpa [hn] using h _ hs
    · intro h piece hp
      cases piece with
      | literal c => rfl
      | directive s => exact Option.isSome_iff_ne_none.mpr (h s hp)

/-- A scan that ends outside of every section starts afresh with the text that follows. -/
theorem scan_append {open? : Option Section} {p : Text}
    (ho : ∀ s ∈ open?, s.directive = none)
    (hp : ∀ s, Piece.directive s ∈ scan open? p → s.directive ≠ none) (q : Text) :
    scan open? (p ++ q) = scan open? p ++ scan none q := by
  induction p generalizing open? with
  | nil =>
    cases open? with
    | none => rfl
    | some s => exact absurd (ho s rfl) (hp s (by simp [scan]))
  | cons c rest ih =>
    cases open? with
    | none =>
      by_cases hc : c = '%'
      · simp only [List.cons_append, scan, hc, if_true] at hp ⊢
        exact ih (by simp [Section.opened]) hp
      · simp only [List.cons_append, scan, hc, if_false] at hp ⊢
        rw [ih (by simp) (fun s hs => hp s (List.mem_cons_of_mem _ hs))]
    | some s =>
      cases he : s.extend? c with
      | some e =>
        simp only [List.cons_append, scan, he] at hp ⊢
        exact ih (by simp [Section.extend?_directive he, ho s rfl]) hp
      | none =>
        simp only [List.cons_append, scan, he] at hp ⊢
        rw [ih (by simp) (fun s hs => hp s (List.mem_cons_of_mem _ hs))]

theorem read_append {p : Text} (hp : Complete p) (q : Text) :
    read (p ++ q) = read p ++ read q :=
  scan_append (by simp) hp q

theorem read_preferred (p : Preferred) (q : Text) :
    read ('%' :: p.letter :: q) = .directive ⟨none, [], some p.letter⟩ :: read q := by
  cases p <;> rfl

@[simp] theorem write_nil : write [] = [] := rfl

@[simp] theorem write_cons (piece : Piece) (rest : List Piece) :
    write (piece :: rest) = piece.text ++ write rest :=
  List.flatMap_cons

@[simp] theorem write_append (xs ys : List Piece) : write (xs ++ ys) = write xs ++ write ys :=
  List.flatMap_append

/-- The sections among pieces with their positions, the first piece standing at the given one. -/
def sectionsFrom : Nat → List Piece → List (Nat × Section)
  | _, [] => []
  | position, .literal _ :: rest => sectionsFrom (position + 1) rest
  | position, .directive s :: rest => (position, s) :: sectionsFrom (position + s.text.length) rest

def sections (t : Text) : List (Nat × Section) :=
  sectionsFrom 0 (read t)

theorem sectionsFrom_split {n k : Nat} {pieces : List Piece} {s : Section}
    (h : (k, s) ∈ sectionsFrom n pieces) :
    ∃ before after, pieces = before ++ .directive s :: after ∧ k = n + (write before).length := by
  induction pieces generalizing n with
  | nil => simp [sectionsFrom] at h
  | cons piece rest ih =>
    cases piece with
    | literal c =>
      obtain ⟨before, after, hr, hk⟩ := ih h
      refine ⟨.literal c :: before, after, by rw [hr]; rfl, ?_⟩
      simp only [write_cons, Piece.text, List.length_append, List.length_singleton]
      omega
    | directive e =>
      rcases List.mem_cons.mp h with he | hm
      · obtain ⟨rfl, rfl⟩ := Prod.mk.inj he
        exact ⟨[], rest, rfl, rfl⟩
      · obtain ⟨before, after, hr, hk⟩ := ih hm
        refine ⟨.directive e :: before, after, by rw [hr]; rfl, ?_⟩
        simp only [write_cons, Piece.text, List.length_append]
        omega

theorem sections_split {t : Text} {k : Nat} {s : Section} (h : (k, s) ∈ sections t) :
    ∃ before after, t = before ++ s.text ++ after ∧ before.length = k := by
  obtain ⟨before, after, hr, hk⟩ := sectionsFrom_split h
  refine ⟨write before, write after, ?_, by omega⟩
  have ht := write_read t
  rw [hr, write_append, write_cons] at ht
  simpa only [Piece.text, List.append_assoc] using ht.symm

theorem exists_mem_sectionsFrom {pieces : List Piece} {s : Section}
    (h : Piece.directive s ∈ pieces) (n : Nat) : ∃ k, (k, s) ∈ sectionsFrom n pieces := by
  induction pieces generalizing n with
  | nil => simp at h
  | cons piece rest ih =>
    cases piece with
    | literal c => exact ih (by simpa using h) _
    | directive e =>
      rcases List.mem_cons.mp h with he | hm
      · obtain rfl := Piece.directive.inj he
        exact ⟨n, List.mem_cons_self⟩
      · obtain ⟨k, hk⟩ := ih hm (n + e.text.length)
        exact ⟨k, List.mem_cons_of_mem _ hk⟩

theorem exists_mem_sections {t : Text} {s : Section} (h : Piece.directive s ∈ read t) :
    ∃ k, (k, s) ∈ sections t :=
  exists_mem_sectionsFrom h 0

theorem mem_read_of_mem_sections {t : Text} {k : Nat} {s : Section} (h : (k, s) ∈ sections t) :
    Piece.directive s ∈ read t := by
  obtain ⟨before, after, hr, _⟩ := sectionsFrom_split h
  simp [hr]

end CalendarText.Template
