import CalendarText.Rendering
import CalendarText.Proofs.Outcomes
import CalendarText.Proofs.Quotation

/-! The call that builds a value tells which value it is. The call starts with the kind of the
value, its numbers end at a comma or a bracket, and an abbreviation, which may hold either, stands
in quotes. -/

namespace CalendarText

theorem Whole.plain_append_inj {v w : Whole} {s t : Text} (hs : EndsDigits s) (ht : EndsDigits t)
    (h : v.plain ++ s = w.plain ++ t) : v = w ∧ s = t := by
  -- A truth value is written as a word, which no number starts with.
  have hne (n : Int) (b : Bool) (u u' : Text) : signedNumeral n ++ u ≠ (flag b).plain ++ u' := by
    cases b <;> exact signedNumeral_append_ne (by decide) (by decide) n u _
  cases v with
  | number m =>
    cases w with
    | number n =>
      obtain ⟨hn, hr⟩ := signedNumeral_append_inj hs ht h
      exact ⟨congrArg number hn, hr⟩
    | flag b => exact absurd h (hne m b s t)
  | flag b =>
    cases w with
    | number n => exact absurd h.symm (hne n b t s)
    | flag b' =>
      cases b <;> cases b'
      · exact ⟨rfl, List.append_cancel_left h⟩
      · exact absurd (List.cons.inj h).1 (by decide)
      · exact absurd (List.cons.inj h).1 (by decide)
      · exact ⟨rfl, List.append_cancel_left h⟩

theorem endsDigits_comma (t : Text) : EndsDigits (", ".toList ++ t) :=
  endsDigits_cons.mpr rfl

theorem signedNumeral_comma_inj {m n : Int} {s t : Text}
    (h : signedNumeral m ++ (", ".toList ++ s) = signedNumeral n ++ (", ".toList ++ t)) :
    m = n ∧ s = t := by
  obtain ⟨hn, hr⟩ := signedNumeral_append_inj (endsDigits_comma s) (endsDigits_comma t) h
  exact ⟨hn, List.append_cancel_left hr⟩

theorem Zone.expression_append_inj {y z : Zone} {s t : Text}
    (h : y.expression ++ s = z.expression ++ t) : y = z ∧ s = t := by
  unfold Zone.expression at h
  simp only [List.append_assoc] at h
  obtain ⟨hu, h⟩ := signedNumeral_comma_inj (List.append_cancel_left h)
  obtain ⟨hd, h⟩ := signedNumeral_comma_inj h
  obtain ⟨ha, h⟩ := quoted_append_inj h
  refine ⟨?_, List.append_cancel_left h⟩
  cases y
  cases z
  rw [Zone.mk.injEq]
  exact ⟨hu, hd, ha⟩

theorem TimeOfDay.parts_append_inj {a b : TimeOfDay} {s t : Text} (hs : EndsDigits s)
    (ht : EndsDigits t) (h : a.parts ++ s = b.parts ++ t) : a = b ∧ s = t := by
  have hu (t : Text) : EndsDigits (", microsecond=".toList ++ t) := endsDigits_cons.mpr rfl
  have hp (t : Text) : EndsDigits (", precision=".toList ++ t) := endsDigits_cons.mpr rfl
  unfold TimeOfDay.parts at h
  simp only [List.append_assoc] at h
  obtain ⟨hhour, h⟩ := signedNumeral_comma_inj h
  obtain ⟨hminute, h⟩ := signedNumeral_comma_inj h
  obtain ⟨hsecond, h⟩ := signedNumeral_append_inj (hu _) (hu _) h
  obtain ⟨hmicro, h⟩ := signedNumeral_append_inj (hp _) (hp _) (List.append_cancel_left h)
  obtain ⟨hprecision, h⟩ := signedNumeral_append_inj hs ht (List.append_cancel_left h)
  exact ⟨TimeOfDay.ext hhour hminute hsecond hmicro hprecision, h⟩

def Date.parts (d : Date) : Text :=
  signedNumeral d.year ++ ", ".toList ++ signedNumeral d.month ++ ", ".toList ++ d.day.plain

theorem Date.parts_append_inj {a b : Date} {s t : Text} (hs : EndsDigits s) (ht : EndsDigits t)
    (h : a.parts ++ s = b.parts ++ t) : a = b ∧ s = t := by
  unfold Date.parts at h
  simp only [List.append_assoc] at h
  obtain ⟨hyear, h⟩ := signedNumeral_comma_inj h
  obtain ⟨hmonth, h⟩ := signedNumeral_comma_inj h
  obtain ⟨hday, h⟩ := Whole.plain_append_inj hs ht h
  exact ⟨Date.ext hyear hmonth hday, h⟩

theorem endsDigits_bracket : EndsDigits [')'] :=
  endsDigits_cons.mpr rfl

theorem Date.expression_eq (d : Date) : d.expression = "Date(".toList ++ (d.parts ++ [')']) := by
  unfold Date.expression Date.parts
  simp only [List.append_assoc]

theorem Date.expression_inj {a b : Date} (h : a.expression = b.expression) : a = b := by
  rw [Date.expression_eq, Date.expression_eq] at h
  exact (Date.parts_append_inj endsDigits_bracket endsDigits_bracket (List.append_cancel_left h)).1

theorem TimeOfDay.expression_inj {a b : TimeOfDay} (h : a.expression = b.expression) : a = b := by
  unfold TimeOfDay.expression at h
  simp only [List.append_assoc] at h
  exact (TimeOfDay.parts_append_inj endsDigits_bracket endsDigits_bracket
    (List.append_cancel_left h)).1

theorem Zone.expression_inj {y z : Zone} (h : y.expression = z.expression) : y = z :=
  (Zone.expression_append_inj (congrArg (· ++ []) h)).1

namespace DateTime

/-- The end of the call that builds a datetime, after its time. -/
def zoneArgument : Option Zone → Text
  | none => [')']
  | some z => ", zone=".toList ++ (z.expression ++ [')'])

theorem expression_eq (x : DateTime) :
    x.expression = "DateTime(".toList ++
      (x.date.parts ++ (", ".toList ++ (x.time.parts ++ zoneArgument x.zone))) := by
  obtain ⟨date, time, zone⟩ := x
  unfold expression Date.parts zoneArgument
  cases zone <;> simp only [List.append_assoc, List.nil_append]

theorem endsDigits_zoneArgument (zone : Option Zone) : EndsDigits (zoneArgument zone) := by
  cases zone <;> exact endsDigits_cons.mpr rfl

theorem zoneArgument_inj {y z : Option Zone} (h : zoneArgument y = zoneArgument z) : y = z := by
  cases y with
  | none =>
    cases z with
    | none => rfl
    | some z => exact absurd (List.cons.inj h).1 (by decide)
  | some y =>
    cases z with
    | none => exact absurd (List.cons.inj h).1 (by decide)
    | some z => rw [(Zone.expression_append_inj (List.append_cancel_left h)).1]

theorem expression_inj {a b : DateTime} (h : a.expression = b.expression) : a = b := by
  rw [expression_eq, expression_eq] at h
  obtain ⟨hd, h⟩ := Date.parts_append_inj (endsDigits_comma _) (endsDigits_comma _)
    (List.append_cancel_left h)
  obtain ⟨ht, h⟩ := TimeOfDay.parts_append_inj (endsDigits_zoneArgument _)
    (endsDigits_zoneArgument _) (List.append_cancel_left h)
  obtain ⟨_, _, _⟩ := a
  obtain ⟨_, _, _⟩ := b
  rw [DateTime.mk.injEq]
  exact ⟨hd, ht, zoneArgument_inj h⟩

end DateTime

namespace Value

def IsOwn : Value → Prop
  | date _ | time _ | datetime _ | zone _ => True
  | _ => False

theorem same_self {v : Value} (hv : v.IsOwn) : v.same v = true := by
  cases v with
  | date d => simp [same, Date.same]
  | time t => simp [same]
  | datetime x => simp [same, DateTime.same, Date.same]
  | zone z => simp [same]
  | _ => exact hv.elim

theorem takeWhile_expression {v : Value} (hv : v.IsOwn) :
    v.expression?.map (·.takeWhile (· ≠ '(')) = some v.kind := by
  cases v with
  | date d => rfl
  | time t => rfl
  | datetime x => rfl
  | zone z => rfl
  | _ => exact hv.elim

theorem kinds_differ : "Date".toList ≠ "Time".toList ∧ "Date".toList ≠ "DateTime".toList ∧
    "Date".toList ≠ "Zone".toList ∧ "Time".toList ≠ "DateTime".toList ∧
    "Time".toList ≠ "Zone".toList ∧ "DateTime".toList ≠ "Zone".toList := by
  decide +kernel

theorem expression?_inj {v w : Value} (hv : v.IsOwn) (hw : w.IsOwn)
    (h : v.expression? = w.expression?) : v = w := by
  obtain ⟨hdt, hdx, hdz, htx, htz, hxz⟩ := kinds_differ
  have hk : v.kind = w.kind := by
    rw [← Option.some_inj, ← takeWhile_expression hv, ← takeWhile_expression hw, h]
  cases v with
  | date a =>
    cases w with
    | date b => exact congrArg date (Date.expression_inj (Option.some.inj h))
    | time b => exact absurd hk hdt
    | datetime b => exact absurd hk hdx
    | zone b => exact absurd hk hdz
    | _ => exact hw.elim
  | time a =>
    cases w with
    | date b => exact absurd hk.symm hdt
    | time b => exact congrArg time (TimeOfDay.expression_inj (Option.some.inj h))
    | datetime b => exact absurd hk htx
    | zone b => exact absurd hk htz
    | _ => exact hw.elim
  | datetime a =>
    cases w with
    | date b => exact absurd hk.symm hdx
    | time b => exact absurd hk.symm htx
    | datetime b => exact congrArg datetime (DateTime.expression_inj (Option.some.inj h))
    | zone b => exact absurd hk hxz
    | _ => exact hw.elim
  | zone a =>
    cases w with
    | date b => exact absurd hk.symm hdz
    | time b => exact absurd hk.symm htz
    | datetime b => exact absurd hk.symm hxz
    | zone b => exact congrArg zone (Zone.expression_inj (Option.some.inj h))
    | _ => exact hw.elim
  | _ => exact hv.elim

/-- Values that are written alike are the same in all their parts, and the same to the comparison.
No value is written like one of another kind. -/
theorem expression_determines {v w : Value} (hv : v.IsOwn) (hw : w.IsOwn)
    (h : v.expression? = w.expression?) : v = w ∧ v.same w = true := by
  obtain rfl := expression?_inj hv hw h
  exact ⟨rfl, same_self hv⟩

/-- The abbreviation holds both quotes, a backslash, a line feed and the end of a call. -/
theorem expression_determines_quotes :
    let z : Zone := ⟨19800, 0, "'\\\n\", 0)".toList, by decide, by decide⟩
    Zone.ofHours (.ofInt 5) (.ofInt 30) (.text z.abbreviation) = .ok z ∧
      (zone z).expression? = some "Zone(19800, 0, '\\'\\\\\\n\", 0)')".toList ∧
      (zone z).same (zone z) = true := by
  intro z
  have he : (zone z).expression? = some "Zone(19800, 0, '\\'\\\\\\n\", 0)')".toList := by
    decide +kernel
  have hs := expression_determines (v := zone z) (w := zone z) trivial trivial rfl
  exact ⟨by decide +kernel, he, hs.2⟩

end Value

end CalendarText
