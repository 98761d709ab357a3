import RecordQuery.Proofs.ColumnType
import RecordQuery.Proofs.LoadedFixture
import RecordQuery.Rendering

/-!
# The names of cells

A row is shown cell by cell, each under the name of its field (`Row.cells`).  A query that names a
cell asks for the first field that answers to the name, and a field answers to the name of its
column too.  So a field takes its column's name from a field that is declared later, and the later
one is shown under a name that it does not answer to (`Model.NameTaken`).  The relation `user` and a
field `user_id` behind it are such fields.

`Fixture.cellIsAsked_iff` says that this is all that comes between what is shown and what is asked
for: every cell whose name is not taken holds what is asked for under the name, and the field that
queries see is the one that was declared under it.
-/

namespace RecordQuery

/-! ### Cells -/

namespace Row

variable {m : Model} {row : Row} {name : String} {value : Value}

/-- Cells of one name have one value, whichever of them is looked at. -/
theorem eq_of_mem_cells (h : (name, value) ∈ row.cells m) :
    value = if name = m.pk then row.pk else row.get name := by
  rcases List.mem_cons.mp h with heq | h
  · obtain ⟨rfl, rfl⟩ := Prod.mk.inj heq
    rw [if_pos rfl]
  · obtain ⟨d, hd, heq⟩ := List.mem_map.mp h
    obtain ⟨rfl, rfl⟩ := Prod.mk.inj heq
    have hne : d.name ≠ m.pk := by simpa using List.of_mem_filter hd
    rw [if_neg hne]

theorem exists_fieldDef_of_mem_cells (hkey : ∃ d ∈ m.fields, d.name = m.pk)
    (h : (name, value) ∈ row.cells m) : ∃ d ∈ m.fields, d.name = name := by
  rcases List.mem_cons.mp h with heq | h
  · obtain ⟨rfl, -⟩ := Prod.mk.inj heq
    exact hkey
  · obtain ⟨d, hd, heq⟩ := List.mem_map.mp h
    exact ⟨d, List.mem_of_mem_filter hd, congrArg Prod.fst heq⟩

theorem lookup_cells_of_mem (h : (name, value) ∈ row.cells m) :
    (row.cells m).lookup name = some value := by
  cases hlookup : (row.cells m).lookup name with
  | none =>
    have hne := List.lookup_eq_none_iff.mp hlookup _ h
    exact absurd hne (by simp)
  | some first =>
    obtain ⟨before, after, hcells, -⟩ := List.lookup_eq_some_iff.mp hlookup
    have hfirst : (name, first) ∈ row.cells m := by rw [hcells]; simp
    rw [eq_of_mem_cells hfirst, eq_of_mem_cells h]

/-- A field's cell shows what the row stores for the field. -/
theorem lookup_cells_name {d : FieldDef} (hd : d ∈ m.fields) (row : Row) :
    (row.cells m).lookup d.name = some (Database.stored m row d) := by
  refine lookup_cells_of_mem ?_
  rw [Database.stored]
  split
  · rename_i heq
    rw [heq]
    exact List.mem_cons_self
  · rename_i hne
    refine List.mem_cons_of_mem _ (List.mem_map.mpr ⟨d, List.mem_filter.mpr ⟨hd, ?_⟩, rfl⟩)
    exact decide_eq_true hne

end Row

/-! ### Taken names -/

namespace Model

variable {m : Model} {name : String} {d : FieldDef}

/-- The name is that of a column, and the column's field is declared before every field that has the
name for its own. -/
def NameTaken (m : Model) (name : String) : Prop :=
  ∃ earlier d later, m.fields = earlier ++ d :: later ∧ d.attname = name ∧
    ∀ other ∈ earlier ++ [d], other.name ≠ name

/-- The field that answers to a name stands behind fields that have it neither for their own name
nor for that of their column. -/
theorem exists_split_of_fieldDef? (h : m.fieldDef? name = some d) :
    (d.name = name ∨ d.attname = name) ∧ ∃ earlier later, m.fields = earlier ++ d :: later ∧
      ∀ other ∈ earlier, other.name ≠ name ∧ other.attname ≠ name := by
  obtain ⟨hanswers, earlier, later, hfields, hearlier⟩ := List.find?_eq_some_iff_append.mp h
  refine ⟨by simpa [FieldDef.answersTo] using hanswers, earlier, later, hfields, ?_⟩
  intro other hother
  simpa [FieldDef.answersTo] using hearlier other hother

/-- A field that answers to a name which is not its own has taken it. -/
theorem nameTaken_of_name_ne (h : m.fieldDef? name = some d) (hne : d.name ≠ name) :
    m.NameTaken name := by
  obtain ⟨hanswers, earlier, later, hfields, hearlier⟩ := exists_split_of_fieldDef? h
  refine ⟨earlier, d, later, hfields, hanswers.resolve_left hne, fun other hother => ?_⟩
  rcases List.mem_append.mp hother with hother | hother
  · exact (hearlier other hother).1
  · rw [List.mem_singleton.mp hother]
    exact hne

/-- The field that answers to a taken name is the one that took it, or stands before it. -/
theorem NameTaken.name_ne (htaken : m.NameTaken name) (h : m.fieldDef? name = some d) :
    d.name ≠ name := by
  obtain ⟨earlier, taker, later, hfields, hattname, hnames⟩ := htaken
  have hsplit : m.fields = (earlier ++ [taker]) ++ later := by
    rw [hfields, List.append_assoc, List.singleton_append]
  have hsome : ((earlier ++ [taker]).find? (·.answersTo name)).isSome := by
    rw [List.find?_isSome]
    exact ⟨taker, by simp, by simp [FieldDef.answersTo, hattname]⟩
  obtain ⟨first, hfirst⟩ := Option.isSome_iff_exists.mp hsome
  rw [fieldDef?, hsplit, List.find?_append, hfirst, Option.some_or] at h
  obtain rfl := Option.some.inj h
  exact hnames _ (List.mem_of_find?_eq_some hfirst)

theorem name_eq_iff_not_nameTaken (h : m.fieldDef? name = some d) :
    d.name = name ↔ ¬ m.NameTaken name :=
  ⟨fun heq htaken => htaken.name_ne h heq, fun hfree => by_contra fun hne =>
    hfree (nameTaken_of_name_ne h hne)⟩

/-- A field that answers to its own name is the first of this name. -/
theorem find?_name_of_fieldDef? (h : m.fieldDef? name = some d) (heq : d.name = name) :
    m.fields.find? (·.name = name) = some d := by
  obtain ⟨-, earlier, later, hfields, hearlier⟩ := exists_split_of_fieldDef? h
  refine List.find?_eq_some_iff_append.mpr
    ⟨decide_eq_true heq, earlier, later, hfields, fun other hother => ?_⟩
  simpa using (hearlier other hother).1

end Model

/-! ### Fields as they are declared and as they are seen -/

namespace Registry

/-- A field as a query sees it is the declared one: it has its names, leads where it leads, and has
the type that is declared where the relations end that start at it. -/
structure Field.Describes (r : Registry) (f : Field) (d : FieldDef) : Prop where
  name : f.name = d.name
  attname : f.attname = d.attname
  related : f.related = r.related? d
  type : ∃ n last, r.EndsAfter n d last ∧ f.type = last.type

theorem exists_describes {r : Registry} {m : Model} (hlead : r.RelationsLead)
    (hkeys : r.KeysDeclared) (hacyclic : r.KeysAcyclic) (hm : m ∈ r.toList) {name : String}
    {d : FieldDef} (hd : m.fieldDef? name = some d) :
    ∃ f, r.field? m name = some f ∧ f.Describes r d := by
  obtain ⟨n, last, hn, hends⟩ :=
    exists_endsAfter hlead hkeys hacyclic hm (List.mem_of_find?_eq_some hd)
  obtain ⟨f, hf, htype⟩ := exists_field?_of_fieldDef? (r := r) hd
  rw [fieldTypeWithin_of_endsAfter hends hd (by omega)] at htype
  have hseen : f.name = d.name ∧ f.attname = d.attname ∧ f.related = r.related? d := by
    rw [field?, hd, Option.map_some] at hf
    obtain rfl := Option.some.inj hf
    cases r.related? d <;> exact ⟨rfl, rfl, rfl⟩
  obtain ⟨hname, hattname, hrelated⟩ := hseen
  exact ⟨f, hf, hname, hattname, hrelated, n, last, hends, htype⟩

end Registry

/-! ### What is shown and what is asked for -/

/-- What a cell shows is what is asked for under its name, and the field that is asked is the one
declared under this name. -/
structure Database.CellIsAsked (db : Database) (m : Model) (row : Row) (name : String)
    (value : Value) : Prop where
  shown : (row.cells m).lookup name = some value
  asked : db.valueAt m row [name] = .ok value
  described : ∃ d f, m.fields.find? (·.name = name) = some d ∧
    db.registry.field? m name = some f ∧ f.Describes db.registry d

namespace Fixture

/-- **A cell shows what is asked for under its name exactly if the name is not taken.**  In any case
a field answers to the name, and what is asked for is what this field's own cell shows. -/
theorem cellIsAsked_iff {text : String} {zone : Offset} {db : Database} {m : Model}
    (hload : load text zone = .ok db) (hacyclic : db.registry.KeysAcyclic)
    (hm : m ∈ db.registry.toList) (row : Row) {name : String} {value : Value}
    (hcell : (name, value) ∈ row.cells m) :
    (∃ d f v, m.fieldDef? name = some d ∧ db.registry.field? m name = some f ∧
      f.Describes db.registry d ∧ db.valueAt m row [name] = .ok v ∧
      (row.cells m).lookup d.name = some v) ∧
    (db.CellIsAsked m row name value ↔ ¬ m.NameTaken name) := by
  have hloaded : ∃ doc, LoadedFrom doc zone db := by
    rw [load] at hload
    split at hload
    · exact ⟨_, loadedFrom_of_toDatabase hload⟩
    · cases hload
  obtain ⟨doc, hloaded⟩ := hloaded
  have hlead := hloaded.relationsLead
  have hkeys := hloaded.keysDeclared
  obtain ⟨declared, hdeclared, hname⟩ := Row.exists_fieldDef_of_mem_cells (hkeys m hm) hcell
  -- the field of the cell answers to its name, and another one may do so before it
  obtain ⟨d, hd⟩ := hname ▸ Model.exists_fieldDef?_name hdeclared
  have hmem : d ∈ m.fields := List.mem_of_find?_eq_some hd
  obtain ⟨f, hf, hdescribes⟩ := Registry.exists_describes hlead hkeys hacyclic hm hd
  have hasked : db.valueAt m row [name] = .ok (Database.stored m row d) :=
    Database.valueAt_singleton row hd
  have hshown := Row.lookup_cells_name hmem row
  refine ⟨⟨d, f, _, hd, hf, hdescribes, hasked, hshown⟩, ?_⟩
  rw [← Model.name_eq_iff_not_nameTaken hd]
  constructor
  · rintro ⟨-, -, other, f', hother, hf', hdescribes'⟩
    -- one field is seen under the name, and it has the name of what it describes
    obtain rfl : f = f' := Option.some.inj (hf.symm.trans hf')
    have hothername : other.name = name := by simpa using List.find?_some hother
    rw [← hdescribes.name, hdescribes'.name, hothername]
  · rintro rfl
    have hvalue : Database.stored m row d = value :=
      Option.some.inj (hshown.symm.trans (Row.lookup_cells_of_mem hcell))
    rw [hvalue] at hasked hshown
    exact ⟨hshown, hasked, d, f, Model.find?_name_of_fieldDef? hd rfl, hf, hdescribes⟩

/-- The relation `user` takes the name of the text declared behind it, so that what is asked for
under the name is the key of the user. -/
theorem cellIsAsked_iff_user_id :
    let text :=
      "\x7b\"models\":[\x7b\"label\":\"t.U\"\x7d,\x7b\"label\":\"t.T\",\"fields\":[" ++
        "\x7b\"name\":\"user\",\"relation\":\"t.U\"\x7d," ++
        "\x7b\"name\":\"user_id\",\"type\":\"text\"\x7d]\x7d]," ++
      "\"objects\":[\x7b\"model\":\"t.U\",\"pk\":7\x7d," ++
        "\x7b\"model\":\"t.T\",\"pk\":1,\"fields\":\x7b\"user\":7\x7d\x7d]\x7d"
    let m : Model := ⟨"t.T", "id",
      [.plain "id" (some .integer), .related "user" "t.U", .plain "user_id" (some .text)]⟩
    ∃ db, load text .utc = .ok db ∧ db.registry.KeysAcyclic ∧ m ∈ db.registry.toList ∧
      ∃ row ∈ db.rows m, row.dict m = "\x7b'id': 1, 'user': 7, 'user_id': None\x7d" ∧
        db.CellIsAsked m row "user" (row.get "user") ∧
        ¬ db.CellIsAsked m row "user_id" (row.get "user_id") ∧
        db.valueAt m row ["user_id"] = .ok (row.get "user") := by
  intro text m
  let user : Model := ⟨"t.U", "id", [.plain "id" (some .integer)]⟩
  have hfacts : (load text .utc).toOption.map (fun db =>
      (db.registry.toList, (db.rows m).map fun row => row.dict m)) =
        some ([m, user], ["\x7b'id': 1, 'user': 7, 'user_id': None\x7d"]) := by
    decide +kernel
  obtain ⟨db, hdb, hfacts⟩ := Option.map_eq_some_iff.mp hfacts
  obtain ⟨hmodels, hrows⟩ := Prod.mk.inj hfacts
  have hload : load text .utc = .ok db := toOption_eq_some.mp hdb
  have hacyclic : db.registry.KeysAcyclic := by
    refine Registry.keysAcyclic_of_rank (fun _ => 0) ?_
    rw [hmodels]
    rintro m' hm' related ⟨d, hd, hrelated⟩
    have hplain : ∀ m' ∈ [m, user], (m'.fieldDef? m'.pk).bind (·.relation) = none := by decide
    have hnone := hplain m' hm'
    rw [hd, Option.bind_some] at hnone
    rw [Registry.related?, hnone] at hrelated
    cases hrelated
  have hm : m ∈ db.registry.toList := by rw [hmodels]; exact List.mem_cons_self
  obtain ⟨row, hrow, hdict⟩ : ∃ row ∈ db.rows m,
      row.dict m = "\x7b'id': 1, 'user': 7, 'user_id': None\x7d" := by
    refine List.mem_map.mp ?_
    rw [hrows]
    exact List.mem_singleton_self _
  have huser : ("user", row.get "user") ∈ row.cells m := .tail _ (.head _)
  have huserId : ("user_id", row.get "user_id") ∈ row.cells m := .tail _ (.tail _ (.head _))
  have hfree : ¬ m.NameTaken "user" :=
    (Model.name_eq_iff_not_nameTaken (d := .related "user" "t.U") (by decide)).mp rfl
  have htaken : m.NameTaken "user_id" :=
    Model.nameTaken_of_name_ne (d := .related "user" "t.U") (by decide) (by decide)
  obtain ⟨-, husered⟩ := cellIsAsked_iff hload hacyclic hm row huser
  obtain ⟨⟨d, f, v, hd, -, -, hasked, hshown⟩, husered'⟩ :=
    cellIsAsked_iff hload hacyclic hm row huserId
  obtain rfl : FieldDef.related "user" "t.U" = d := Option.some.inj hd
  obtain rfl : row.get "user" = v :=
    Option.some.inj ((Row.lookup_cells_of_mem huser).symm.trans hshown)
  exact ⟨db, hload, hacyclic, hm, row, hrow, hdict, husered.mpr hfree,
    fun hcell => husered'.mp hcell htaken, hasked⟩

end Fixture

end RecordQuery
