import RecordQuery.Fixture.Load
import RecordQuery.Proofs.Failure

/-!
# What a column may hold

A column of a type holds scalars of the type, a column without a type everything that JSON has a
scalar for, which is all but instants.  Either may also hold nothing, and lists of what it may hold,
at any depth (`Value.Conforms`).

Whatever `Fixture.convert` makes of a JSON document conforms to the type it is converted for
(`Fixture.conforms_of_convert`).
-/

namespace RecordQuery

/-- A column of the type may hold the value. -/
inductive Value.Conforms (type : Option FieldType) : Value → Prop
  | null : Conforms type .null
  | scalar {v : Value} {t : FieldType} (hv : v.fieldType? = some t)
      (ht : type = some t ∨ type = none ∧ t ≠ .dateTime) : Conforms type v
  | list {items : List Value} (h : ∀ item ∈ items, Conforms type item) : Conforms type (.list items)

namespace Fixture

open Value (Conforms)

variable {type : Option FieldType} {zone : Offset} {model field : String}

theorem conforms_of_convert_bool {b : Bool} {v : Value}
    (h : convert type zone model field (.bool b) = .ok v) : v.Conforms type := by
  cases type with
  | none =>
    cases h
    exact .scalar rfl (Or.inr ⟨rfl, nofun⟩)
  | some t =>
    cases t with
    | boolean =>
      cases h
      exact .scalar rfl (Or.inl rfl)
    | dateTime | integer | float | text => cases h

/-- A number is converted to an integer where it may be, and else to a float. -/
theorem conforms_of_convert_number {n : Json.Number} {v : Value}
    (h : convert type zone model field (.number n) = .ok v) : v.Conforms type := by
  cases type with
  | none =>
    rw [convert] at h
    split at h
    · cases h
      exact .scalar rfl (Or.inr ⟨rfl, nofun⟩)
    · cases h
      exact .scalar rfl (Or.inr ⟨rfl, nofun⟩)
  | some t =>
    cases t with
    | integer =>
      rw [convert] at h
      split at h
      · cases h
        exact .scalar rfl (Or.inl rfl)
      · cases h
    | float =>
      cases h
      exact .scalar rfl (Or.inl rfl)
    | dateTime | boolean | text => cases h

/-- A text is converted to an instant only where the column is one of instants. -/
theorem conforms_of_convert_string {s : String} {v : Value}
    (h : convert type zone model field (.string s) = .ok v) : v.Conforms type := by
  cases type with
  | none =>
    cases h
    exact .scalar rfl (Or.inr ⟨rfl, nofun⟩)
  | some t =>
    cases t with
    | dateTime =>
      rw [convert] at h
      split at h
      · cases h
        exact .scalar rfl (Or.inl rfl)
      · cases h
    | text =>
      cases h
      exact .scalar rfl (Or.inl rfl)
    | boolean | integer | float => cases h

mutual

/-- **What is converted for a column conforms to its type.** -/
theorem conforms_of_convert {j : Json} {v : Value}
    (h : convert type zone model field j = .ok v) : v.Conforms type := by
  match j with
  | .null =>
    cases h
    exact .null
  | .bool b => exact conforms_of_convert_bool h
  | .number n => exact conforms_of_convert_number h
  | .string s => exact conforms_of_convert_string h
  | .object members => cases h
  | .array items =>
    rw [convert, map_eq_ok] at h
    obtain ⟨values, hvalues, rfl⟩ := h
    exact .list (conforms_of_convertItems hvalues)

theorem conforms_of_convertItems {items : List Json} {values : List Value}
    (h : convertItems type zone model field items = .ok values) :
    ∀ v ∈ values, v.Conforms type := by
  match items with
  | [] =>
    cases h
    intro v hv
    cases hv
  | item :: items =>
    rw [convertItems] at h
    obtain ⟨first, hfirst, h⟩ := bind_eq_ok.mp h
    obtain ⟨others, hothers, h⟩ := bind_eq_ok.mp h
    cases h
    exact List.forall_mem_cons.mpr ⟨conforms_of_convert hfirst, conforms_of_convertItems hothers⟩

end

end Fixture

end RecordQuery
