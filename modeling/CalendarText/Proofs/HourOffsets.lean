import CalendarText.Proofs.CivilOffsets

/-! Offsets given in hours and minutes. The hours carry the sign and the minutes follow it, and there is
a zone for them if they come to a day at most. Datetimes in the zone show them as they were given.
A refusal shows the seconds or the minutes, unless they have too many digits for it. -/

namespace CalendarText

/-- The seconds of an offset in hours and minutes. -/
def hourOffset (hours minutes : Int) : Int :=
  if 0 ≤ hours then hours * 3600 + minutes * 60 else hours * 3600 - minutes * 60

theorem natAbs_hourOffset (h : Int) {m : Int} (hm : 0 ≤ m) :
    (hourOffset h m).natAbs = 60 * (60 * h.natAbs + m.natAbs) := by
  unfold hourOffset
  split <;> omega

theorem hourOffset_neg_iff (h : Int) {m : Int} (hm : 0 ≤ m) : hourOffset h m < 0 ↔ h < 0 := by
  unfold hourOffset
  split <;> omega

theorem Zone.ofHours_ofInt (h m : Int) (name : Datum) :
    ofHours (.ofInt h) (.ofInt m) name =
      if 0 ≤ m ∧ m ≤ 59 then make (.ofInt (hourOffset h m)) (.ofInt 0) name
      else .error (Failure.refused (.minutesOutOfRange (.ofInt m))).raised := by
  have hm : secondsPerMinute = 60 := rfl
  have hh : secondsPerHour = 3600 := rfl
  simp only [ofHours, Datum.ofInt, Datum.toNumber_whole, Whole.toInt_number, ok_bind,
    Number.le_whole, Bool.and_eq_true, decide_eq_true_eq, Number.mul_whole, hm, hh]
  split
  · unfold hourOffset
    split <;> rfl
  · rfl

/-- Minutes that make an hour are refused, and so is what is more than a day. -/
theorem Zone.ofHours_split (h m : Int) (name : Text) :
    (¬(0 ≤ m ∧ m ≤ 59) → ofHours (.ofInt h) (.ofInt m) (.text name) =
      .error (if isShort m then .refused (.minutesOutOfRange (.ofInt m)) else .tooLong)) ∧
    (0 ≤ m ∧ m ≤ 59 → 1440 < 60 * h.natAbs + m →
      ofHours (.ofInt h) (.ofInt m) (.text name) =
        .error (if isShort (hourOffset h m) then tooFar (hourOffset h m) else .tooLong)) ∧
    (0 ≤ m ∧ m ≤ 59 → 60 * h.natAbs + m ≤ 1440 → ∃ z : Zone,
      ofHours (.ofInt h) (.ofInt m) (.text name) = .ok z ∧ z.totalOffset = hourOffset h m ∧
        z.abbreviation = name) := by
  have hstd : (0 : Int).natAbs < 86400 := by decide
  obtain ⟨hfar, hnear⟩ := make_split (hourOffset h m) hstd name
  rw [Int.sub_zero] at hfar hnear
  refine ⟨fun hm => ?_, fun hm hd => ?_, fun hm hd => ?_⟩
  · rw [ofHours_ofInt, if_neg hm, Failure.raised, Failure.isWritable, Refusal.isWritable,
      Datum.isWritable_ofInt]
  · have ha := natAbs_hourOffset h hm.1
    rw [ofHours_ofInt, if_pos hm, hfar (by omega), Failure.raised, isWritable_tooFar]
  · have ha := natAbs_hourOffset h hm.1
    rw [ofHours_ofInt, if_pos hm]
    obtain ⟨z, hz, -, ht, hn⟩ := hnear (by omega)
    exact ⟨z, hz, ht, hn⟩

theorem Zone.ofHours_isOk_iff {h m : Int} {name : Text} :
    (∃ z, ofHours (.ofInt h) (.ofInt m) (.text name) = .ok z) ↔
      (0 ≤ m ∧ m ≤ 59) ∧ 60 * h.natAbs + m ≤ 1440 := by
  obtain ⟨hminutes, hfar, hnear⟩ := ofHours_split h m name
  constructor
  · rintro ⟨z, hz⟩
    by_cases hm : 0 ≤ m ∧ m ≤ 59
    · refine ⟨hm, Int.not_lt.mp fun hd => ?_⟩
      rw [hfar hm hd] at hz
      cases hz
    · rw [hminutes hm] at hz
      cases hz
  · rintro ⟨hm, hd⟩
    obtain ⟨z, hz, -⟩ := hnear hm hd
    exact ⟨z, hz⟩

/-- The text of an offset of less than a hundred hours, in whole minutes: the sign of the hours, two
digits for the hours and two for the minutes. -/
theorem exists_offsetText_hourOffset {h m : Int} (hm : 0 ≤ m ∧ m ≤ 59) (hh : h.natAbs < 100) :
    ∃ hours minutes, offsetText (hourOffset h m) =
        (if h < 0 then '-' else '+') :: (hours ++ minutes) ∧
      InDigits hours 2 h.natAbs ∧ InDigits minutes 2 m := by
  have ha := natAbs_hourOffset h hm.1
  obtain ⟨hours, minutes, hr⟩ := exists_readsAsOffset (hourOffset h m)
  have hw := hr.written
  simp only [hourOffset_neg_iff h hm.1] at hw
  have hl : (offsetText (hourOffset h m)).length = 5 := length_offsetText (by omega)
  rw [hw, List.length_cons, List.length_append, hr.minutes_length] at hl
  have hleast := hr.least
  have hmost := hr.most
  have hlt := hr.minutes_lt
  refine ⟨hours, minutes, hw, ⟨hr.digits.1, by omega, ?_⟩, ⟨hr.digits.2, hr.minutes_length, ?_⟩⟩ <;>
    omega

theorem DateTime.fields_ofZone (x : DateTime) : x.fields.OfZone x.zone :=
  ⟨rfl, rfl⟩

/-- There is a zone for hours and minutes exactly if the minutes do not make an hour and all of it is a
day at most, and otherwise they are refused for the one or the other, unless what is refused is too
long to be written. Every datetime in the zone shows the sign of the hours, and the hours and the
minutes in two digits each. -/
theorem Zone.ofHours_shown (h m : Int) (name : Text) :
    ((∃ z, ofHours (.ofInt h) (.ofInt m) (.text name) = .ok z) ↔
      (0 ≤ m ∧ m ≤ 59) ∧ 60 * h.natAbs + m ≤ 1440) ∧
    (∀ e, ofHours (.ofInt h) (.ofInt m) (.text name) = .error e →
      e = if 0 ≤ m ∧ m ≤ 59 then
          if isShort (hourOffset h m) then
            .refused (.outOfRange (.text "utc_offset".toList) (.ofInt (-86400)) (.ofInt 86400)
              (.ofInt (hourOffset h m)))
          else .tooLong
        else if isShort m then .refused (.minutesOutOfRange (.ofInt m)) else .tooLong) ∧
    ∀ z, ofHours (.ofInt h) (.ofInt m) (.text name) = .ok z → z.abbreviation = name ∧
      ∀ x : DateTime, x.zone = some z → ∀ o, ∃ hours minutes,
        render (.text "%z".toList) (.datetime x) o =
          .ok ((if h < 0 then '-' else '+') :: (hours ++ minutes)) ∧
        InDigits hours 2 h.natAbs ∧ InDigits minutes 2 m := by
  obtain ⟨hminutes, hfar, hnear⟩ := ofHours_split h m name
  refine ⟨ofHours_isOk_iff, fun e he => ?_, fun z hz => ?_⟩
  · by_cases hm : 0 ≤ m ∧ m ≤ 59
    · by_cases hd : 1440 < 60 * h.natAbs + m
      · rw [hfar hm hd] at he
        rw [if_pos hm]
        exact (Except.error.inj he).symm
      · obtain ⟨z, hz, -⟩ := hnear hm (by omega)
        rw [hz] at he
        cases he
    · rw [hminutes hm] at he
      rw [if_neg hm]
      exact (Except.error.inj he).symm
  · obtain ⟨hm, hd⟩ := ofHours_isOk_iff.mp ⟨z, hz⟩
    obtain ⟨z', hz', ht, hn⟩ := hnear hm hd
    obtain rfl : z' = z := Except.ok.inj (hz'.symm.trans hz)
    refine ⟨hn, fun x hx o => ?_⟩
    obtain ⟨hours, minutes, hw, hdigits⟩ := exists_offsetText_hourOffset (h := h) hm (by omega)
    have hf := x.fields_ofZone
    rw [hx] at hf
    have ho := hf.hasOffset
    rw [ht] at ho
    have ha := natAbs_hourOffset h hm.1
    have hl : isShort (Directive.hoursMinutesOf (hourOffset h m)) = true :=
      Directive.isShort_hoursMinutesOf_of_lt (by omega)
    exact ⟨hours, minutes, (render_offset_of_short rfl ho hl).trans (congrArg Except.ok hw), hdigits⟩

/-- The minutes go the way of the hours, here further behind, and one of them more than a day is too
many. -/
theorem Zone.ofHours_shown_behind :
    let z : Zone := ⟨-12600, 0, "NST".toList, by decide, by decide⟩
    let x : DateTime := ⟨⟨2019, 8, .number 26, by decide, by decide, by decide⟩,
      ⟨13, 52, 6, 0, 0, by decide, by decide, by decide, by decide, by decide⟩, some z⟩
    let farBehind := ofHours (.ofInt (-24)) (.ofInt 1) (.text [])
    ofHours (.ofInt (-3)) (.ofInt 30) (.text "NST".toList) = .ok z ∧
      (∃ hours minutes, render (.text "%z".toList) (.datetime x) Options.default =
          .ok ('-' :: (hours ++ minutes)) ∧
        InDigits hours 2 3 ∧ InDigits minutes 2 30) ∧
      farBehind = .error (.refused (.outOfRange (.text "utc_offset".toList) (.ofInt (-86400))
        (.ofInt 86400) (.ofInt (-86460)))) := by
  intro z x farBehind
  have hz : ofHours (.ofInt (-3)) (.ofInt 30) (.text "NST".toList) = .ok z :=
    (ofHours_ofInt (-3) 30 _).trans rfl
  obtain ⟨-, -, hshown⟩ := ofHours_shown (-3) 30 "NST".toList
  obtain ⟨hiff, herror, -⟩ := ofHours_shown (-24) 1 []
  refine ⟨hz, (hshown z hz).2 x rfl Options.default, ?_⟩
  cases hf : farBehind with
  | ok z' => exact absurd (hiff.mp ⟨z', hf⟩).2 (by decide)
  | error e => exact congrArg Except.error (herror e hf)

/-- So many hours can be written, but not the seconds that they make. -/
theorem Zone.ofHours_tooLong :
    let h : Int := (Nat.pow 10 (maxDigits - 1) : Nat)
    isShort h = true ∧ ¬60 * h.natAbs + 0 ≤ 1440 ∧
      ofHours (.ofInt h) (.ofInt 0) (.text []) = .error .tooLong := by
  have hp := le_pow_maxDigits
  have hm : Nat.pow 10 maxDigits = 10 * Nat.pow 10 (maxDigits - 1) := pow_eq_ten_mul (by decide)
  have hs : isShort (Nat.pow 10 (maxDigits - 1) : Nat) = true := isShort_of_lt_ten_mul (by omega)
  have hl : isShort (hourOffset (Nat.pow 10 (maxDigits - 1) : Nat) 0) = false :=
    isShort_eq_false_iff.mpr (by unfold hourOffset; omega)
  generalize Nat.pow 10 (maxDigits - 1) = n at hp hs hl
  intro h
  have hd : ¬60 * h.natAbs + 0 ≤ 1440 := by omega
  refine ⟨hs, hd, ?_⟩
  rw [(ofHours_split h 0 []).2.1 (by decide) (by omega), hl]
  rfl

end CalendarText
