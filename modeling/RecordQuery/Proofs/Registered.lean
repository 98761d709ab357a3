import RecordQuery.Proofs.Path
import RecordQuery.Proofs.SortedEntries

/-!
# Models in a registry

A registry that is filled by registering models holds each of them under its label in lower case
(`keyed_ofList`), so a model is found under every way of writing its label and under no other
(`Keyed.model?_eq_some_iff`).  Of several models whose labels differ by nothing but the case, the
last one registered stays (`model?_ofList`).

`RelationsLead` and `KeysDeclared` are what makes a registry complete: relations lead to models, and
the primary key of a model is one of its fields.
-/

namespace RecordQuery.Registry

/-- Every relation of a model of the registry leads to a model of the registry. -/
def RelationsLead (r : Registry) : Prop :=
  ∀ m ∈ r.toList, ∀ d ∈ m.fields, ∀ target, d.relation = some target →
    ∃ related, r.model? target = some related

/-- Every model of the registry has a field with the name of its primary key. -/
def KeysDeclared (r : Registry) : Prop := ∀ m ∈ r.toList, ∃ d ∈ m.fields, d.name = m.pk

/-- Models stand under their labels in lower case, and no label stands twice. -/
structure Keyed (r : Registry) : Prop where
  sorted : r.models.Sorted
  label : ∀ e ∈ r.models.toList, e.1 = Text.lowerCase e.2.label

theorem models_ofList (models : List Model) :
    (ofList models).models =
      SortedMap.ofList (models.map fun m => (Text.lowerCase m.label, m)) := by
  have hfold : ∀ (models : List Model) (r : Registry), (models.foldl register r).models =
      (models.map fun m => (Text.lowerCase m.label, m)).foldl
        (fun map p => map.insert p.1 p.2) r.models := by
    intro models
    induction models with
    | nil => exact fun r => rfl
    | cons m models ih => exact fun r => ih (r.register m)
  exact hfold models empty

theorem keyed_ofList (models : List Model) : (ofList models).Keyed := by
  constructor
  · rw [models_ofList]
    exact SortedMap.sorted_ofList _
  · intro e he
    rw [models_ofList] at he
    obtain ⟨m, -, rfl⟩ := List.mem_map.mp (SortedMap.mem_of_mem_ofList he)
    rfl

namespace Keyed

variable {r : Registry} {m m' : Model} {label : String}

theorem model?_eq_some_iff (h : r.Keyed) :
    r.model? label = some m ↔ m ∈ r.toList ∧ Text.lowerCase m.label = Text.lowerCase label := by
  rw [model?, h.sorted.get?_eq_some_iff]
  constructor
  · intro hmem
    exact ⟨List.mem_map.mpr ⟨_, hmem, rfl⟩, (h.label _ hmem).symm⟩
  · rintro ⟨hmem, hlabel⟩
    obtain ⟨⟨key, m'⟩, he, rfl⟩ := List.mem_map.mp hmem
    have hkey : key = Text.lowerCase m'.label := h.label _ he
    rwa [← hlabel, ← hkey]

/-- A model of the registry is found under its own label. -/
theorem model?_label (h : r.Keyed) (hm : m ∈ r.toList) : r.model? m.label = some m :=
  h.model?_eq_some_iff.mpr ⟨hm, rfl⟩

theorem eq_of_label_eq (h : r.Keyed) (hm : m ∈ r.toList) (hm' : m' ∈ r.toList)
    (hlabel : m.label = m'.label) : m = m' := by
  have hfound := h.model?_label hm
  rw [hlabel, h.model?_label hm'] at hfound
  exact (Option.some.inj hfound).symm

end Keyed

/-! ### Registering -/

/-- The model under a label is the last one registered whose label is the same but for the case. -/
theorem model?_ofList (models : List Model) (label : String) :
    (ofList models).model? label =
      (models.filter fun m => Text.lowerCase m.label = Text.lowerCase label).getLast? := by
  rw [model?, models_ofList, SortedMap.get?_ofList, List.filter_map, List.getLast?_map,
    Option.map_map]
  exact Option.map_id'

/-- No model is found under a label exactly if none was registered whose label is the same but for the
case. -/
theorem model?_ofList_eq_none_iff {models : List Model} {label : String} :
    (ofList models).model? label = none ↔
      ∀ m ∈ models, Text.lowerCase m.label ≠ Text.lowerCase label := by
  rw [model?_ofList, List.getLast?_eq_none_iff, List.filter_eq_nil_iff]
  simp only [decide_eq_true_eq, ne_eq]

theorem mem_of_mem_toList_ofList {models : List Model} {m : Model}
    (h : m ∈ (ofList models).toList) : m ∈ models := by
  have hfound := (keyed_ofList models).model?_label h
  rw [model?_ofList] at hfound
  exact List.mem_of_mem_filter (List.mem_of_getLast? hfound)

end RecordQuery.Registry
