import CalendarText.Failure

/-! Outcomes taken apart. An operation made of two steps gives a result when both do, and fails as
the first step that fails. -/

namespace CalendarText

variable {α β : Type}

@[simp] theorem ok_bind (a : α) (g : α → Outcome β) : (Except.ok a >>= g) = g a := rfl

@[simp] theorem error_bind (e : Failure) (g : α → Outcome β) :
    ((Except.error e : Outcome α) >>= g) = .error e := rfl

@[simp] theorem pure_eq_ok (a : α) : (pure a : Outcome α) = .ok a := rfl

theorem bind_eq_ok_iff {x : Outcome α} {g : α → Outcome β} {b : β} :
    (x >>= g) = .ok b ↔ ∃ a, x = .ok a ∧ g a = .ok b := by
  cases x <;> simp

theorem bind_eq_error_iff {x : Outcome α} {g : α → Outcome β} {e : Failure} :
    (x >>= g) = .error e ↔ x = .error e ∨ ∃ a, x = .ok a ∧ g a = .error e := by
  cases x <;> simp

instance [DecidableEq α] (x : Outcome α) (a : α) : Decidable (x = .ok a) :=
  match x with
  | .ok b => decidable_of_iff (b = a) (by simp)
  | .error _ => isFalse (by simp)

def failure? : Outcome α → Option Failure
  | .ok _ => none
  | .error e => some e

@[simp] theorem failure?_ok (a : α) : failure? (Except.ok a : Outcome α) = none := rfl

@[simp] theorem failure?_error (e : Failure) :
    failure? (Except.error e : Outcome α) = some e := rfl

theorem failure?_map (x : Outcome α) (g : α → β) :
    failure? (do return g (← x)) = failure? x := by
  cases x <;> rfl

theorem failure?_eq_none_iff {x : Outcome α} : failure? x = none ↔ ∃ a, x = .ok a := by
  cases x <;> simp [failure?]

theorem failure?_eq_some_iff {x : Outcome α} {e : Failure} :
    failure? x = some e ↔ x = .error e := by
  cases x <;> simp [failure?]

/-- The outcome is the given failure, or something good when no failure is given. -/
def Settles (good : α → Prop) (x : Outcome α) : Option Failure → Prop
  | none => ∃ a, x = .ok a ∧ good a
  | some e => x = .error e

theorem Settles.imp {good good' : α → Prop} {x : Outcome α} {fault : Option Failure}
    (h : Settles good x fault) (hg : ∀ a, good a → good' a) : Settles good' x fault := by
  cases fault with
  | none =>
    obtain ⟨a, ha, hp⟩ := h
    exact ⟨a, ha, hg a hp⟩
  | some e => exact h

theorem Settles.bind {good : α → Prop} {good' : β → Prop} {x : Outcome α} {g : α → Outcome β}
    {fault fault' : Option Failure} (h : Settles good x fault)
    (hg : ∀ a, good a → Settles good' (g a) fault') :
    Settles good' (x >>= g) (fault.or fault') := by
  cases fault with
  | none =>
    obtain ⟨a, rfl, ha⟩ := h
    exact hg a ha
  | some e =>
    obtain rfl : x = .error e := h
    rfl

theorem Settles.map {good : α → Prop} {good' : β → Prop} {x : Outcome α} {g : α → Outcome β}
    {fault : Option Failure} (h : Settles good x fault)
    (hg : ∀ a, good a → ∃ b, g a = .ok b ∧ good' b) : Settles good' (x >>= g) fault := by
  have hn : Settles good' (x >>= g) (fault.or none) := h.bind hg
  simpa only [Option.or_none] using hn

/-- A relation between outcomes that holds of equal ones, and of two operations when it holds of
their first steps and of whatever follows them. -/
structure Congruent (R : {α : Type} → Outcome α → Outcome α → Prop) : Prop where
  refl : ∀ {α : Type} (x : Outcome α), R x x
  bind : ∀ {α β : Type} {x y : Outcome α} {g h : α → Outcome β}, R x y → (∀ a, R (g a) (h a)) →
    R (x >>= g) (y >>= h)

theorem Congruent.map {R : {α : Type} → Outcome α → Outcome α → Prop} (hR : Congruent R)
    {x y : Outcome α} (h : R x y) (g : α → Outcome β) : R (x >>= g) (y >>= g) :=
  hR.bind h fun a => hR.refl (g a)

def Datum.IsText (d : Datum) : Prop :=
  ∃ t, d = .text t

/-- Whether a datum is padded as a number or as a text. -/
def Datum.IsPlain (d : Datum) : Prop :=
  (∃ w, d = .whole w) ∨ d.IsText

/-- A number that is short enough to be written, or a text. -/
def Datum.IsShown (d : Datum) : Prop :=
  (∃ w : Whole, d = .whole w ∧ w.isWritable = true) ∨ d.IsText

end CalendarText
