import RecordQuery.Proofs.Conformance
import RecordQuery.Proofs.DocumentNumbers
import RecordQuery.Proofs.InstantNotation
import RecordQuery.Proofs.ValueOrder
import RecordQuery.Rendering

/-!
# Rendered cells loaded again

`Value.toJson` renders what a column holds, and `Fixture.convert` makes the same of it again for the
same column, but that its instants have lost the fraction of their seconds and are in the offset they
were rendered in (`Value.cutTo`, `Fixture.convert_toJson`).

What is needed of the value is that its numbers are finite and its instants proper
(`Value.Faithful`), which is so for whatever a document was converted to
(`Fixture.faithful_of_convert`), and that its instants are in range where they are rendered.
-/

namespace RecordQuery

namespace Value

mutual

/-- The value with its instants cut to the second and in another offset. -/
def cutTo (o : Offset) : Value → Value
  | dateTime t => dateTime (t.cutTo o)
  | list items => list (itemsCutTo o items)
  | v => v

/-- The items of a list with their instants cut to the second and in another offset. -/
def itemsCutTo (o : Offset) : List Value → List Value
  | [] => []
  | item :: items => cutTo o item :: itemsCutTo o items

end

/-- The numbers in the value are finite, and its instants are such as are read by a reader in an
offset of whole minutes. -/
inductive Faithful : Value → Prop
  | null : Faithful .null
  | bool (b : Bool) : Faithful (.bool b)
  | int (i : Int64) : Faithful (.int i)
  | float {x : Binary64} (hx : x.Finite) : Faithful (.float x)
  | text (s : String) : Faithful (.text s)
  | dateTime {t : DateTime} (ht : t.Proper) (hoffset : t.offset.WholeMinutes) :
    Faithful (.dateTime t)
  | list {items : List Value} (h : ∀ item ∈ items, Faithful item) : Faithful (.list items)

/-- The instants in the value are in range where clocks are ahead by the offset. -/
def InRangeIn (o : Offset) (v : Value) : Prop :=
  ∀ t, dateTime t ∈ v.leaves → (t.localIn o).date.inRange = true

theorem leaves_subset_itemLeaves {item : Value} {items : List Value} (h : item ∈ items) :
    item.leaves ⊆ itemLeaves items := by
  induction items with
  | nil => cases h
  | cons first items ih =>
    rw [itemLeaves]
    rcases List.mem_cons.mp h with rfl | h
    · exact List.subset_append_left _ _
    · exact List.Subset.trans (ih h) (List.subset_append_right _ _)

theorem InRangeIn.item {o : Offset} {items : List Value} (h : (list items).InRangeIn o)
    {item : Value} (hitem : item ∈ items) : item.InRangeIn o :=
  fun t ht => h t (leaves_subset_itemLeaves hitem ht)

end Value

namespace Fixture

open Value (Conforms Faithful InRangeIn)

variable {type : Option FieldType} {zone o : Offset} {model field : String}

/-! ### What is converted -/

theorem faithful_of_convert_bool {b : Bool} {v : Value}
    (h : convert type zone model field (.bool b) = .ok v) : v.Faithful := by
  unfold convert at h
  split at h
  · cases h
    exact .bool b
  · cases h
    exact .bool b
  · cases h

theorem faithful_of_convert_number {n : Json.Number} {v : Value} (hn : n.Valid)
    (h : convert type zone model field (.number n) = .ok v) : v.Faithful := by
  unfold convert at h
  split at h
  · split at h
    · cases h
      exact .int _
    · cases h
  · cases h
    exact .float (hn.finite_toBinary64)
  · split at h
    · cases h
      exact .int _
    · cases h
      exact .float (hn.finite_toBinary64)
  · cases h

theorem faithful_of_convert_string (hzone : zone.WholeMinutes) {s : String} {v : Value}
    (h : convert type zone model field (.string s) = .ok v) : v.Faithful := by
  unfold convert at h
  split at h
  · split at h
    · rename_i t hread
      cases h
      have hread := DateTime.dateTime_eq_ok_iff.mp hread
      exact .dateTime (DateTime.proper_of_read? hread) (DateTime.wholeMinutes_of_read? hzone hread)
    · cases h
  · cases h
    exact .text s
  · cases h
    exact .text s
  · cases h

mutual

theorem faithful_of_convert (hzone : zone.WholeMinutes) {j : Json} (hj : j.NumbersValid) {v : Value}
    (h : convert type zone model field j = .ok v) : v.Faithful := by
  match j with
  | .null =>
    cases h
    exact .null
  | .bool b => exact faithful_of_convert_bool h
  | .number n => exact faithful_of_convert_number (hj n List.mem_cons_self) h
  | .string s => exact faithful_of_convert_string hzone h
  | .object members => cases h
  | .array items =>
    rw [convert, map_eq_ok] at h
    obtain ⟨values, hvalues, rfl⟩ := h
    exact .list (faithful_of_convertItems hzone hj hvalues)

theorem faithful_of_convertItems (hzone : zone.WholeMinutes) {items : List Json}
    (hitems : ∀ n ∈ Json.itemNumbers items, n.Valid) {values : List Value}
    (h : convertItems type zone model field items = .ok values) : ∀ v ∈ values, v.Faithful := by
  match items with
  | [] =>
    cases h
    intro v hv
    cases hv
  | item :: items =>
    obtain ⟨hitem, hitems⟩ := List.forall_mem_append.mp hitems
    rw [convertItems] at h
    obtain ⟨first, hfirst, h⟩ := bind_eq_ok.mp h
    obtain ⟨others, hothers, h⟩ := bind_eq_ok.mp h
    cases h
    exact List.forall_mem_cons.mpr
      ⟨faithful_of_convert hzone hitem hfirst, faithful_of_convertItems hzone hitems hothers⟩

end

/-! ### What is rendered -/

theorem convert_toJson_float {x : Binary64} (hx : x.Finite)
    (htype : type = some .float ∨ type = none) :
    convert type o model field ((Value.float x).toJson o) = .ok (.float x) := by
  have hjson : (Value.float x).toJson o = .number (.float x) := by
    rw [Value.toJson, Binary64.finite_iff.mp hx]
    rfl
  rw [hjson]
  rcases htype with rfl | rfl
  · rfl
  · rfl

theorem convert_toJson_int (i : Int64) (htype : type = some .integer ∨ type = none) :
    convert type o model field ((Value.int i).toJson o) = .ok (.int i) := by
  have hint : (Json.Number.integer i.toInt).toInt64? = some i := int64?_toInt i
  rcases htype with rfl | rfl
  · simp only [Value.toJson, convert, hint]
  · simp only [Value.toJson, convert, hint]

theorem convert_toJson_dateTime {t : DateTime} (ht : t.Proper) (hoffset : t.offset.WholeMinutes)
    (ho : o.WholeMinutes) (hrange : (t.localIn o).date.inRange = true) :
    convert (some .dateTime) o model field ((Value.dateTime t).toJson o) =
      .ok (.dateTime (t.cutTo o)) := by
  have hleap := DateTime.leapEndsMinute_localIn ht hoffset ho
  have hread := DateTime.dateTime_eq_ok_iff.mpr
    (DateTime.read?_displayIn ht.utc_inRange hrange hleap)
  simp only [Value.toJson, convert, hread]

theorem convert_toJson_scalar {v : Value} {t : FieldType} (hv : v.fieldType? = some t)
    (htype : type = some t ∨ type = none ∧ t ≠ .dateTime) (hfaithful : v.Faithful)
    (ho : o.WholeMinutes) (hrange : v.InRangeIn o) :
    convert type o model field (v.toJson o) = .ok (v.cutTo o) := by
  have hnone : type = some t ∨ type = none := htype.imp_right And.left
  cases hfaithful with
  | null => cases hv
  | list => cases hv
  | bool b =>
    cases hv
    rcases hnone with rfl | rfl
    · rfl
    · rfl
  | text s =>
    cases hv
    rcases hnone with rfl | rfl
    · rfl
    · rfl
  | int i =>
    cases hv
    exact convert_toJson_int i hnone
  | float hx =>
    cases hv
    exact convert_toJson_float hx hnone
  | @dateTime instant hproper hoffset =>
    cases hv
    rcases htype with rfl | ⟨_, hne⟩
    · exact convert_toJson_dateTime hproper hoffset ho (hrange instant List.mem_cons_self)
    · exact absurd rfl hne

theorem convertItems_itemsToJson {items : List Value}
    (h : ∀ item ∈ items, convert type o model field (item.toJson o) = .ok (item.cutTo o)) :
    convertItems type o model field (Value.itemsToJson o items) = .ok (Value.itemsCutTo o items) := by
  induction items with
  | nil => rfl
  | cons item items ih =>
    obtain ⟨hitem, hitems⟩ := List.forall_mem_cons.mp h
    simp only [Value.itemsToJson, convertItems, hitem, ih hitems]
    rfl

/-- A faithful value that a column may hold is converted from its own rendering. -/
theorem convert_toJson_of_conforms {v : Value} (hv : v.Conforms type) (hfaithful : v.Faithful)
    (ho : o.WholeMinutes) (hrange : v.InRangeIn o) :
    convert type o model field (v.toJson o) = .ok (v.cutTo o) := by
  induction hv with
  | null => rfl
  | scalar hv htype => exact convert_toJson_scalar hv htype hfaithful ho hrange
  | list h ih =>
    cases hfaithful with
    | list hitems =>
      have hread := convertItems_itemsToJson fun item hitem =>
        ih item hitem (hitems item hitem) (hrange.item hitem)
      simp only [Value.toJson, convert, hread]
      rfl

/-- **What was loaded into a column is loaded from its own rendering** by a reader in the offset that
it was rendered in, but for the fractions of seconds, which are cut off; an instant keeps its second.
Offsets that are read are whole minutes, and the numbers of documents that are read are valid. -/
theorem convert_toJson :
    (∀ text zone, Offset.read? text = some zone → zone.WholeMinutes) ∧
    (∀ depth (s : Json.Syntax) raw, s.meaning? depth = some raw → raw.NumbersValid) ∧
    (∀ (t : DateTime) (o : Offset), (t.cutTo o).orderKey ≤ t.orderKey ∧
      t.orderKey < (t.cutTo o).orderKey + nanosPerSecond) ∧
    ∀ (type : Option FieldType) (zone o : Offset) (model field : String) (raw : Json) (v : Value),
      zone.WholeMinutes → o.WholeMinutes → raw.NumbersValid →
      convert type zone model field raw = .ok v → v.InRangeIn o →
      convert type o model field (v.toJson o) = .ok (v.cutTo o) := by
  refine ⟨?_, ?_, DateTime.orderKey_cutTo, ?_⟩
  · intro text zone h
    exact Offset.wholeMinutes_of_read? h
  · intro depth s raw h
    exact Json.Syntax.numbersValid_of_meaning? h
  · intro type zone o model field raw v hzone ho hraw h hrange
    have hconforms : v.Conforms type := conforms_of_convert h
    have hfaithful : v.Faithful := faithful_of_convert hzone hraw h
    exact convert_toJson_of_conforms hconforms hfaithful ho hrange

theorem convert_toJson_leap_second :
    ∃ t, DateTime.read? "2016-12-31T23:59:60.75" ⟨7200, by decide, by decide⟩ = some t ∧
      t.displayIn ⟨-12600, by decide, by decide⟩ = "2016-12-31 18:29:60" ∧
      convert (some .dateTime) ⟨-12600, by decide, by decide⟩ "t.Note" "at"
          (.array [.array [.string "2016-12-31 18:29:60"], .null]) =
        .ok (.list [.list [.dateTime (t.cutTo ⟨-12600, by decide, by decide⟩)], .null]) := by
  generalize hzone : (⟨7200, by decide, by decide⟩ : Offset) = zone
  generalize ho : (⟨-12600, by decide, by decide⟩ : Offset) = o
  have hany : (DateTime.read? "2016-12-31T23:59:60.75" zone).any (fun t =>
      t.displayIn o = "2016-12-31 18:29:60" ∧ (t.localIn o).date.inRange) = true := by
    subst hzone ho
    decide
  obtain ⟨t, ht, hshown⟩ := (Option.any_eq_true _ _).mp hany
  obtain ⟨htext, hrange⟩ := of_decide_eq_true hshown
  have hminutes : zone.WholeMinutes ∧ o.WholeMinutes := by
    subst hzone ho
    exact ⟨by decide, by decide⟩
  have hconvert : convert (some .dateTime) zone "t.Note" "at"
      (.array [.array [.string "2016-12-31T23:59:60.75"], .null]) =
      .ok (.list [.list [.dateTime t], .null]) := by
    simp only [convert, convertItems, DateTime.dateTime_eq_ok_iff.mpr ht]
    rfl
  have hback := convert_toJson.2.2.2 (some .dateTime) zone o "t.Note" "at" _ _ hminutes.1 hminutes.2
    (by simp [Json.NumbersValid, Json.numbers, Json.itemNumbers]) hconvert
    (by simpa [InRangeIn, Value.leaves, Value.itemLeaves] using hrange)
  simp only [Value.toJson, Value.itemsToJson, Value.cutTo, Value.itemsCutTo, htext] at hback
  exact ⟨t, ht, htext, hback⟩

end Fixture

end RecordQuery
