import CalendarText.Proofs.Conversion

/-! Datetimes put together and taken apart. A datetime has the date, the time and the zone that it is
combined of, it publishes their fields and no others, and its own parts make it up again. -/

namespace CalendarText

/-- What is handed over as a zone: null for none. -/
def Value.ofZone? (z : Option Zone) : Value :=
  (z.map Value.zone).getD (.datum .null)

theorem Value.zoneChoice_ofZone? (z : Option Zone) : (ofZone? z).zoneChoice.check = .ok z := by
  cases z <;> rfl

theorem Zone.published_eq_some_iff {z : Zone} {f : Field} {d : Datum} :
    z.published f = some d ↔ (f, d) ∈ [(.utcOffset, Datum.ofInt z.utcOffset),
      (.stdOffset, Datum.ofInt z.stdOffset), (.zoneName, .text z.abbreviation)] := by
  cases f <;> simp [published, eq_comm]

namespace DateTime

theorem published_eq_some_iff {x : DateTime} {f : Field} {d : Datum} :
    x.published f = some d ↔ x.date.published f = some d ∨ x.time.published f = some d ∨
      ∃ z ∈ x.zone, z.published f = some d := by
  -- No field is published by two of the parts, so that none of them hides another.
  cases f <;>
    simp [published, Date.published, TimeOfDay.published, Zone.published, Option.bind_eq_some_iff]

theorem combine_whole (x : DateTime) (zone : ZoneChoice) :
    combine (.datetime x) (.datetime x) zone = combine (.date x.date) (.time x.time) zone := rfl

theorem zonePart_ofZone? (x : DateTime) :
    (Value.datetime x).zonePart = .ok (.ofZone? x.zone) := by
  obtain ⟨date, time, zone⟩ := x
  cases zone <;> rfl

theorem combine_parts_ofZone? (d : Date) (t : TimeOfDay) (z : Option Zone) :
    combine (.date d) (.time t) (Value.ofZone? z).zoneChoice = .ok ⟨d, t, z⟩ := by
  rw [combine_parts, Value.zoneChoice_ofZone?]
  rfl

/-- Every date, time and zone can be combined, with or without a zone. The datetime has the parts it was
combined of and the fields that they publish, with those of the zone only if there is one. Every
datetime is combined again of its own parts, and of itself in place of them. -/
theorem combine_takes_parts :
    (∀ (d : Date) (t : TimeOfDay) (z : Option Zone), ∃ x,
      combine (.date d) (.time t) (Value.ofZone? z).zoneChoice = .ok x ∧
      (Value.datetime x).datePart = .ok (.date d) ∧
      (Value.datetime x).timePart = .ok (.time t) ∧
      (Value.datetime x).zonePart = .ok (.ofZone? z) ∧
      ∀ f e, x.published f = some e ↔ d.published f = some e ∨ t.published f = some e ∨
        ∃ y ∈ z, (f, e) ∈ [(.utcOffset, Datum.ofInt y.utcOffset),
          (.stdOffset, Datum.ofInt y.stdOffset), (.zoneName, .text y.abbreviation)]) ∧
    ∀ x : DateTime,
      (do
        let d ← (Value.datetime x).datePart
        let t ← (Value.datetime x).timePart
        let z ← (Value.datetime x).zonePart
        combine d t z.zoneChoice) = .ok x ∧
      (do
        let z ← (Value.datetime x).zonePart
        combine (.datetime x) (.datetime x) z.zoneChoice) = .ok x := by
  refine ⟨fun d t z => ⟨_, combine_parts_ofZone? d t z, rfl, rfl, zonePart_ofZone? _, ?_⟩,
    fun x => ⟨?_, ?_⟩⟩
  · intro f e
    simp only [published_eq_some_iff, Zone.published_eq_some_iff]
  · simp only [Value.datePart, Value.timePart, zonePart_ofZone?, ok_bind, combine_parts_ofZone?]
  · simp only [zonePart_ofZone?, ok_bind, combine_whole, combine_parts_ofZone?]

end DateTime

end CalendarText
