import RecordQuery.Proofs.Conformance
import RecordQuery.Proofs.Inserting

/-!
# What is loaded

A text that can be loaded is a document, and what is loaded is what the document describes
(`Fixture.loadedFrom_of_load`).  `Fixture.LoadedFrom` says what that means.  The registry is
complete.  The rows of each model are described by its objects, one by one and in their order
(`Fixture.Describes`), and there are no others.  Values stand under names of fields, and each is one
that its column may hold.

The three stages of loading are looked at one by one: `Fixture.relationsLead_of_checkRelations` is
about the check of the relations, `Fixture.toRow_eq_ok` about the rows made of objects, and
`Fixture.insertAll_eq_ok` about storing them.
-/

namespace RecordQuery

/-! ### Lists of results -/

theorem exists_mem_of_forall₂ {α β : Type} {R : α → β → Prop} {list : List α} {list' : List β}
    (h : List.Forall₂ R list list') {b : β} (hb : b ∈ list') : ∃ a ∈ list, R a b := by
  induction h with
  | nil => cases hb
  | cons hab _ ih =>
    rcases List.mem_cons.mp hb with rfl | hb
    · exact ⟨_, List.mem_cons_self, hab⟩
    · obtain ⟨a, ha, hab⟩ := ih hb
      exact ⟨a, List.mem_cons_of_mem _ ha, hab⟩

namespace Fixture

variable {r : Registry} {m : Model} {zone : Offset}

/-! ### Storing rows -/

/-- **Storing rows** adds each to the table of its model, in order, and changes nothing else. -/
theorem insertAll_eq_ok {db db' : Database} {rows : List (String × Row)}
    (hkeyed : db.registry.Keyed) (htables : db.TablesRegistered)
    (h : insertAll db rows = .ok db') :
    db'.registry = db.registry ∧ db'.TablesRegistered ∧
      ∀ m, db'.rows m = db.rows m ++
        (rows.filter fun p => Text.lowerCase p.1 = Text.lowerCase m.label).map Prod.snd := by
  induction rows generalizing db with
  | nil =>
    cases h
    exact ⟨rfl, htables, fun m => (List.append_nil _).symm⟩
  | cons p rows ih =>
    obtain ⟨label, row⟩ := p
    rw [insertAll] at h
    split at h
    · rename_i next hnext
      have hregistry : next.registry = db.registry := by
        obtain ⟨m, -, rfl⟩ := Database.insert_eq_ok hnext
        rfl
      obtain ⟨hregistry', htables', hrows⟩ :=
        ih (hregistry ▸ hkeyed) (htables.insert hnext) h
      refine ⟨hregistry'.trans hregistry, htables', fun m => ?_⟩
      rw [hrows, Database.rows_insert hkeyed hnext, List.append_assoc, List.filter_cons]
      by_cases hlabel : Text.lowerCase label = Text.lowerCase m.label
      · rw [if_pos hlabel, if_pos (by simpa using hlabel)]
        rfl
      · rw [if_neg hlabel, if_neg (by simpa using hlabel)]
        rfl
    · cases h

/-! ### Checking relations -/

theorem relation_of_checkFields {fields : List FieldDef} (h : checkFields r m fields = .ok ()) :
    ∀ d ∈ fields, ∀ target, d.relation = some target →
      ∃ related, r.model? target = some related := by
  induction fields with
  | nil => exact fun d hd => absurd hd List.not_mem_nil
  | cons first rest ih =>
    rw [checkFields] at h
    cases hrelation : first.relation with
    | none =>
      rw [hrelation] at h
      refine List.forall_mem_cons.mpr ⟨fun target htarget => ?_, ih h⟩
      rw [hrelation] at htarget
      cases htarget
    | some target =>
      simp only [hrelation] at h
      split at h
      · rename_i hsome
        refine List.forall_mem_cons.mpr ⟨fun target' htarget => ?_, ih h⟩
        rw [hrelation] at htarget
        cases htarget
        exact Option.isSome_iff_exists.mp hsome
      · cases h

theorem relationsLead_of_checkRelations (h : checkRelations r r.toList = .ok ()) :
    r.RelationsLead := by
  have hmodels : ∀ models, checkRelations r models = .ok () → ∀ m ∈ models, ∀ d ∈ m.fields,
      ∀ target, d.relation = some target → ∃ related, r.model? target = some related := by
    intro models hcheck
    induction models with
    | nil => exact fun m hm => absurd hm List.not_mem_nil
    | cons first rest ih =>
      rw [checkRelations] at hcheck
      obtain ⟨_, hfields, hrest⟩ := bind_eq_ok.mp hcheck
      exact List.forall_mem_cons.mpr ⟨relation_of_checkFields hfields, ih hrest⟩
  exact hmodels r.toList h

/-- A model that is described without a field for its primary key is given one. -/
theorem exists_pk_toModel (e : ModelEntry) : ∃ d ∈ e.toModel.fields, d.name = e.toModel.pk := by
  simp only [ModelEntry.toModel]
  by_cases hany : e.fields.any (·.name = e.pk.getD Model.defaultPk)
  · obtain ⟨f, hf, hname⟩ := List.any_eq_true.mp hany
    rw [if_pos hany]
    exact ⟨f.toDef, List.mem_map_of_mem hf, of_decide_eq_true hname⟩
  · -- the field that is put in front of the others
    rw [if_neg hany]
    exact ⟨_, List.mem_append_left _ List.mem_cons_self, rfl⟩

/-! ### Rows -/

/-- A value of an object is stored under the name of the field that it answers to, converted for
the column of the field. -/
def Converts (r : Registry) (m : Model) (zone : Offset) (e : String × Json)
    (stored : String × Value) : Prop :=
  ∃ d, m.fieldDef? e.1 = some d ∧ stored.1 = d.name ∧
    convertField r m d.name zone e.2 = .ok stored.2

/-- A row holds what an object says: the primary key, and the values one after the other, so that of
several values for one field the last one stays. -/
structure Describes (r : Registry) (m : Model) (zone : Offset) (o : ObjectEntry) (row : Row) :
    Prop where
  pk : convertField r m m.pk zone o.pk = .ok row.pk
  values : ∃ stored, List.Forall₂ (Converts r m zone) o.fields stored ∧
    row.values = SortedMap.ofList stored

theorem fillRow_eq_ok {row row' : Row} {entries : List (String × Json)}
    (h : fillRow r m zone row entries = .ok row') :
    ∃ stored, List.Forall₂ (Converts r m zone) entries stored ∧ row'.pk = row.pk ∧
      row'.values = stored.foldl (fun values p => values.insert p.1 p.2) row.values := by
  induction entries generalizing row with
  | nil =>
    cases h
    exact ⟨[], .nil, rfl, rfl⟩
  | cons e rest ih =>
    obtain ⟨name, json⟩ := e
    rw [fillRow] at h
    split at h
    · cases h
    · rename_i d hd
      obtain ⟨v, hv, h⟩ := bind_eq_ok.mp h
      obtain ⟨stored, hstored, hpk, hvalues⟩ := ih h
      exact ⟨(d.name, v) :: stored, .cons ⟨d, hd, rfl, hv⟩ hstored, hpk, hvalues⟩

theorem toRow_eq_ok {o : ObjectEntry} {p : String × Row} (h : toRow r zone o = .ok p) :
    ∃ m, r.model? o.model = some m ∧ p.1 = m.label ∧ Describes r m zone o p.2 := by
  rw [toRow] at h
  split at h
  · cases h
  · rename_i m hm
    obtain ⟨pk, hpk, h⟩ := bind_eq_ok.mp h
    obtain ⟨row, hrow, h⟩ := bind_eq_ok.mp h
    cases h
    obtain ⟨stored, hstored, hrowpk, hvalues⟩ := fillRow_eq_ok hrow
    exact ⟨m, hm, rfl, hrowpk ▸ hpk, stored, hstored, hvalues⟩

theorem conforms_of_convertField {name : String} {json : Json} {v : Value}
    (h : convertField r m name zone json = .ok v) : v.Conforms (storageType r m name) :=
  conforms_of_convert (mapError_eq_ok.mp h)

/-- What a row holds was said by the object that it is described by. -/
theorem Describes.exists_converts {o : ObjectEntry} {row : Row} (h : Describes r m zone o row)
    {stored : String × Value} (hstored : stored ∈ row.values.toList) :
    ∃ e ∈ o.fields, Converts r m zone e stored := by
  obtain ⟨all, hall, hvalues⟩ := h.values
  rw [hvalues] at hstored
  exact exists_mem_of_forall₂ hall (SortedMap.mem_of_mem_ofList hstored)

theorem Describes.exists_fieldDef {o : ObjectEntry} {row : Row} (h : Describes r m zone o row)
    {stored : String × Value} (hstored : stored ∈ row.values.toList) :
    ∃ d ∈ m.fields, d.name = stored.1 := by
  obtain ⟨e, -, d, hd, hname, -⟩ := h.exists_converts hstored
  exact ⟨d, List.mem_of_find?_eq_some hd, hname.symm⟩

theorem Describes.conforms {o : ObjectEntry} {row : Row} (h : Describes r m zone o row) :
    row.pk.Conforms (storageType r m m.pk) ∧
      ∀ stored ∈ row.values.toList, stored.2.Conforms (storageType r m stored.1) := by
  refine ⟨conforms_of_convertField h.pk, fun stored hstored => ?_⟩
  obtain ⟨e, -, d, -, hname, hvalue⟩ := h.exists_converts hstored
  rw [hname]
  exact conforms_of_convertField hvalue

/-- The rows made of the objects of one model, in the order of the objects. -/
theorem forall₂_describes {objects : List ObjectEntry} {rows : List (String × Row)}
    (hkeyed : r.Keyed) (h : objects.mapM (toRow r zone) = .ok rows) (hm : m ∈ r.toList) :
    List.Forall₂ (Describes r m zone)
      (objects.filter fun o => Text.lowerCase o.model = Text.lowerCase m.label)
      ((rows.filter fun p => Text.lowerCase p.1 = Text.lowerCase m.label).map Prod.snd) := by
  have hrows := mapM_eq_ok_iff.mp h
  -- an object and its row stay or go together, as their labels differ in case only
  have hlabel : ∀ o p, toRow r zone o = .ok p →
      Text.lowerCase p.1 = Text.lowerCase o.model := by
    intro o p hrow
    obtain ⟨m', hm', hp, -⟩ := toRow_eq_ok hrow
    rw [hp, (hkeyed.model?_eq_some_iff.mp hm').2]
  have hfiltered := List.rel_filter (R := fun o p => toRow r zone o = .ok p)
    (p := fun o => Text.lowerCase o.model = Text.lowerCase m.label)
    (q := fun p => Text.lowerCase p.1 = Text.lowerCase m.label)
    (fun o p hrow => by simp only [hlabel o p hrow]) hrows
  have hmodel : ∀ o ∈ objects.filter fun o => Text.lowerCase o.model = Text.lowerCase m.label,
      r.model? o.model = some m := by
    intro o ho
    have heq : Text.lowerCase o.model = Text.lowerCase m.label := by
      simpa using List.of_mem_filter ho
    exact hkeyed.model?_eq_some_iff.mpr ⟨hm, heq.symm⟩
  rw [List.forall₂_map_right_iff]
  refine ((List.forall₂_and_left _ _).mpr ⟨hmodel, hfiltered⟩).imp ?_
  rintro o p ⟨hfound, hrow⟩
  obtain ⟨m', hm', -, hdescribes⟩ := toRow_eq_ok hrow
  rw [hfound] at hm'
  cases hm'
  exact hdescribes

/-! ### Loading -/

/-- `db` is what the document describes. -/
structure LoadedFrom (doc : Document) (zone : Offset) (db : Database) : Prop where
  /-- Under a label is the last model described whose label is the same but for the case. -/
  models : ∀ label, db.registry.model? label =
    ((doc.models.filter fun e => Text.lowerCase e.label = Text.lowerCase label).getLast?).map
      ModelEntry.toModel
  relationsLead : db.registry.RelationsLead
  keysDeclared : db.registry.KeysDeclared
  /-- Every object is of a model of the registry. -/
  objects : ∀ o ∈ doc.objects, ∃ m, db.registry.model? o.model = some m
  /-- The rows of a model are what its objects say, in their order. -/
  rows : ∀ m ∈ db.registry.toList, List.Forall₂ (Describes db.registry m zone)
    (doc.objects.filter fun o => Text.lowerCase o.model = Text.lowerCase m.label) (db.rows m)
  /-- There are no other rows. -/
  tables : ∀ table ∈ db.tables.toList, ∃ m ∈ db.registry.toList,
    table = (Text.lowerCase m.label, db.rows m)
  /-- Values are stored under names of fields. -/
  declared : ∀ m ∈ db.registry.toList, ∀ row ∈ db.rows m, ∀ stored ∈ row.values.toList,
    ∃ d ∈ m.fields, d.name = stored.1
  /-- Values are what their columns may hold. -/
  conforming : ∀ m ∈ db.registry.toList, ∀ row ∈ db.rows m,
    row.pk.Conforms (storageType db.registry m m.pk) ∧
      ∀ stored ∈ row.values.toList, stored.2.Conforms (storageType db.registry m stored.1)

theorem model?_ofList_toModel (entries : List ModelEntry) (label : String) :
    (Registry.ofList (entries.map ModelEntry.toModel)).model? label =
      ((entries.filter fun e => Text.lowerCase e.label = Text.lowerCase label).getLast?).map
        ModelEntry.toModel := by
  rw [Registry.model?_ofList, List.filter_map, List.getLast?_map]
  rfl

theorem keysDeclared_ofList_toModel (entries : List ModelEntry) :
    (Registry.ofList (entries.map ModelEntry.toModel)).KeysDeclared := by
  intro m hm
  obtain ⟨e, -, rfl⟩ := List.mem_map.mp (Registry.mem_of_mem_toList_ofList hm)
  exact exists_pk_toModel e

/-- **A document that can be loaded is loaded as it says.** -/
theorem loadedFrom_of_toDatabase {doc : Document} {db : Database}
    (h : doc.toDatabase zone = .ok db) : LoadedFrom doc zone db := by
  obtain ⟨_, hcheck, h⟩ := bind_eq_ok.mp h
  obtain ⟨rows, hrows, h⟩ := bind_eq_ok.mp h
  have hkeyed := Registry.keyed_ofList (doc.models.map ModelEntry.toModel)
  obtain ⟨hregistry, htables, hstored⟩ :=
    insertAll_eq_ok hkeyed (Database.tablesRegistered_new _) h
  change db.registry = Registry.ofList (doc.models.map ModelEntry.toModel) at hregistry
  -- the registry was checked, and rows were made with it, before the database was there
  rw [← hregistry] at hkeyed hcheck hrows
  have hdescribes : ∀ m ∈ db.registry.toList, List.Forall₂ (Describes db.registry m zone)
      (doc.objects.filter fun o => Text.lowerCase o.model = Text.lowerCase m.label)
      (db.rows m) := by
    intro m hm
    rw [hstored m, Database.rows_new, List.nil_append]
    exact forall₂_describes hkeyed hrows hm
  refine ⟨?_, relationsLead_of_checkRelations hcheck, ?_, ?_, hdescribes, ?_, ?_, ?_⟩
  · rw [hregistry]
    exact model?_ofList_toModel doc.models
  · rw [hregistry]
    exact keysDeclared_ofList_toModel doc.models
  · intro o ho
    obtain ⟨p, -, hp⟩ := exists_mem_of_forall₂ (mapM_eq_ok_iff.mp hrows).flip ho
    obtain ⟨m, hm, -⟩ := toRow_eq_ok hp
    exact ⟨m, hm⟩
  · exact fun table htable => htables.exists_eq htable
  · intro m hm row hrow stored hmem
    obtain ⟨o, -, ho⟩ := exists_mem_of_forall₂ (hdescribes m hm) hrow
    exact ho.exists_fieldDef hmem
  · intro m hm row hrow
    obtain ⟨o, -, ho⟩ := exists_mem_of_forall₂ (hdescribes m hm) hrow
    exact ho.conforms

/-- **What is loaded is well formed, and is what the text describes.** -/
theorem loadedFrom_of_load {text : String} {db : Database} (h : load text zone = .ok db) :
    ∃ doc, Document.read? text = some doc ∧ LoadedFrom doc zone db := by
  rw [load] at h
  split at h
  · rename_i doc hread
    exact ⟨doc, hread, loadedFrom_of_toDatabase h⟩
  · cases h

/-- A note names its author, a user described after the note, by the column of the relation; the
records are written as arrays. -/
theorem loadedFrom_of_load_note :
    let text :=
      "\x7b\"models\":[[\"Note\",null,[[\"by\",null,\"User\",null]]]," ++
        "[\"User\",null,[[\"id\",\"text\",null,null]]]]," ++
      "\"objects\":[[\"NOTE\",1,\x7b\"by_id\":[\"ann\"]\x7d],[\"user\",\"ann\"]]\x7d"
    ∃ db, load text .utc = .ok db ∧
      db.tables.toList.map (fun t => (t.1, t.2.flatMap fun row => row.values.toList.map Prod.fst)) =
        [("note", ["by"]), ("user", [])] ∧
      ∃ doc, Document.read? text = some doc ∧ LoadedFrom doc .utc db := by
  intro text
  have htables : (load text .utc).toOption.map (fun db => db.tables.toList.map fun t =>
      (t.1, t.2.flatMap fun row => row.values.toList.map Prod.fst)) =
        some [("note", ["by"]), ("user", [])] := by
    decide +kernel
  obtain ⟨db, hdb, htables⟩ := Option.map_eq_some_iff.mp htables
  have hload : load text .utc = .ok db := by
    cases hload : load text .utc with
    | ok loaded =>
      rw [hload] at hdb
      exact congrArg _ (Option.some.inj hdb)
    | error e =>
      rw [hload] at hdb
      cases hdb
  exact ⟨db, hload, htables, loadedFrom_of_load hload⟩

end Fixture

end RecordQuery
