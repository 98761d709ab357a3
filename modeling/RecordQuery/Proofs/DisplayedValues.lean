import RecordQuery.Condition
import RecordQuery.Proofs.InstantNotation

/-!
# Values read from their own text

`Value.display` says what a value is, to a reader who knows its type: `Coercion.scalar` makes the same
value of it, and so the condition to equal what was read holds for the value
(`Coercion.scalar_display`).  That is so for truth values, integers, instants that have been read and
are in an offset of whole minutes, and texts (`Value.Legible`); only the text `null` is read as no
value.  For an instant the text has the offset in it, so that of the reader plays no part.
-/

namespace RecordQuery

/-- A scalar whose text says what it is. -/
inductive Value.Legible : Value → Prop
  | bool (b : Bool) : Legible (.bool b)
  | int (i : Int64) : Legible (.int i)
  | text {s : String} (hnull : s ≠ "null") : Legible (.text s)
  | dateTime {s : String} {zone : Offset} {t : DateTime} (hread : DateTime.read? s zone = some t)
      (hoffset : t.offset.WholeMinutes) : Legible (.dateTime t)

theorem Value.Legible.display_ne_null {v : Value} (hv : v.Legible) : v.display ≠ "null" := by
  cases hv with
  | bool b => cases b <;> decide
  | int i =>
    intro hnull
    have hread := Literal.integer?_signedDecimal i
    rw [← Value.display, hnull] at hread
    cases hread
  | text hnull => exact hnull
  | @dateTime s zone t hread hoffset =>
    intro hnull
    have hback := DateTime.read?_rfc3339 (DateTime.proper_of_read? hread) hoffset zone
    rw [← Value.display, hnull] at hback
    cases hback

namespace Coercion

theorem convert_display {v : Value} (hv : v.Legible) (zone : Offset) :
    convert v.fieldType? v.display zone = .ok v := by
  cases hv with
  | bool b => cases b <;> rfl
  | int i =>
    rw [Value.fieldType?, Value.display, convert, Literal.integer, Literal.integer?_signedDecimal]
    rfl
  | text hnull => rfl
  | @dateTime s zone' t hread hoffset =>
    have hback := DateTime.read?_rfc3339 (DateTime.proper_of_read? hread) hoffset zone
    rw [Value.fieldType?, Value.display, convert, DateTime.dateTime_eq_ok_iff.mpr hback]
    rfl

end Coercion

theorem Value.Legible.equals_self {v : Value} (hv : v.Legible) : v.equals v = true := by
  cases hv <;> simp [Value.equals]

/-- To equal a legible value holds for that value. -/
theorem Condition.evaluate_exact_self {v : Value} (hv : v.Legible) :
    (Condition.exact v).evaluate v = true := by
  have hequal := hv.equals_self
  cases hv <;> simp [evaluate, holds, sameValue, hequal]

/-- **A value is read from its own text** by a reader in any offset, and equals what was read. -/
theorem Coercion.scalar_display {c : Coercion} {v : Value} (hv : v.Legible)
    (hc : c.target = v.fieldType?) :
    (∀ zone, c.scalar v.display zone = .ok v) ∧ v.equals v = true ∧
      ∃ condition, Condition.ofOperator .exact v = .ok condition ∧
        condition.evaluate v = true := by
  refine ⟨?_, hv.equals_self, .exact v, rfl, Condition.evaluate_exact_self hv⟩
  intro zone
  rw [scalar, if_neg hv.display_ne_null, hc, convert_display hv]

theorem Coercion.scalar_display_leap_second :
    ∃ t, DateTime.read? "+12016-12-31T23:59:60.5-03:30" Offset.utc = some t ∧
      t.rfc3339 = "+12016-12-31T23:59:60.500-03:30" ∧
      ∀ zone, (Coercion.mk (some .dateTime) none).scalar "+12016-12-31T23:59:60.500-03:30" zone =
        .ok (.dateTime t) := by
  have hsome : (DateTime.read? "+12016-12-31T23:59:60.5-03:30" Offset.utc).isSome := by decide
  obtain ⟨t, ht⟩ := Option.isSome_iff_exists.mp hsome
  have htext : t.rfc3339 = "+12016-12-31T23:59:60.500-03:30" := by
    have hmap : (DateTime.read? "+12016-12-31T23:59:60.5-03:30" Offset.utc).map DateTime.rfc3339 =
        some "+12016-12-31T23:59:60.500-03:30" := by decide
    rw [ht] at hmap
    exact Option.some.inj hmap
  have hoffset : t.offset.WholeMinutes := DateTime.wholeMinutes_of_read? Offset.wholeMinutes_utc ht
  have hscalar := (Coercion.scalar_display (c := ⟨some .dateTime, none⟩)
    (.dateTime ht hoffset) rfl).1
  rw [Value.display, htext] at hscalar
  exact ⟨t, ht, htext, hscalar⟩

end RecordQuery
