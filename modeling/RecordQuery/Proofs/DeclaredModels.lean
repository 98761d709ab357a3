import Mathlib.Data.List.Induction
import RecordQuery.Declaration.Description
import RecordQuery.Proofs.AttributeGroups

/-!
# What declarations describe

A struct without parameters whose fields have names describes a model, if its options can be read
(`Declares`).  The model has the fields that are not left out, in their order
(`Description.ofItem_describes`).  Of texts for the same thing the last one counts, and any option
without a text counts wherever it stands (`Options.text_ofSettings`, `Options.flag_ofSettings`).

A field is known by its last new name, or else its own one (`Annotated.name`).  It is a relation if it
is said to be one, else untyped if it is said to be that, else typed (`Annotated.field`).  Fields that
are left out do not matter, not even if they are marked as the primary key.
-/

namespace RecordQuery.Declaration

open Token (Tree)

/-! ### What options come to -/

namespace Setting

/-- The new name that the option gives. -/
def renamed? : Setting → Option String
  | rename name => some name
  | _ => none

/-- The label that the option gives. -/
def labelled? : Setting → Option String
  | label text => some text
  | _ => none

end Setting

namespace Options

theorem ofSettings_concat (items : List Setting) (s : Setting) :
    ofSettings (items ++ [s]) = (ofSettings items).set s := by
  rw [ofSettings, List.foldl_concat]
  rfl

/-- Of several texts for the same thing the last one holds. -/
theorem text_ofSettings {part : Options → Option String} {text? : Setting → Option String}
    (hempty : part empty = none) (hset : ∀ o s, part (o.set s) = (text? s).or (part o))
    (items : List Setting) : part (ofSettings items) = (items.filterMap text?).getLast? := by
  induction items using List.reverseRecOn with
  | nil => exact hempty
  | append_singleton items s ih =>
    rw [ofSettings_concat, hset, ih, List.filterMap_append, List.getLast?_append]
    cases htext : text? s <;> simp [htext]

/-- What is said once is said. -/
theorem flag_ofSettings {flag : Options → Bool} {s : Setting} (hempty : flag empty = false)
    (hset : ∀ o t, flag (o.set t) = (flag o || decide (t = s))) (items : List Setting) :
    flag (ofSettings items) = decide (s ∈ items) := by
  induction items using List.reverseRecOn with
  | nil =>
    rw [decide_eq_false List.not_mem_nil]
    exact hempty
  | append_singleton items t ih =>
    rw [ofSettings_concat, hset, ih]
    simp [eq_comm]

@[simp]
theorem name_ofSettings (items : List Setting) :
    (ofSettings items).name = (items.filterMap Setting.renamed?).getLast? :=
  text_ofSettings rfl (by rintro o (_ | _) <;> rfl) items

@[simp]
theorem label_ofSettings (items : List Setting) :
    (ofSettings items).label = (items.filterMap Setting.labelled?).getLast? :=
  text_ofSettings rfl (by rintro o (_ | _) <;> rfl) items

@[simp]
theorem excluded_ofSettings (items : List Setting) :
    (ofSettings items).excluded = decide (Setting.exclude ∈ items) :=
  flag_ofSettings rfl (by rintro o (_ | _) <;> simp [set]) items

@[simp]
theorem relation_ofSettings (items : List Setting) :
    (ofSettings items).relation = decide (Setting.relation ∈ items) :=
  flag_ofSettings rfl (by rintro o (_ | _) <;> simp [set]) items

@[simp]
theorem untyped_ofSettings (items : List Setting) :
    (ofSettings items).untyped = decide (Setting.untyped ∈ items) :=
  flag_ofSettings rfl (by rintro o (_ | _) <;> simp [set]) items

@[simp]
theorem primaryKey_ofSettings (items : List Setting) :
    (ofSettings items).primaryKey = decide (Setting.primaryKey ∈ items) :=
  flag_ofSettings rfl (by rintro o (_ | _) <;> simp [set]) items

end Options

/-! ### Declarations with their options -/

/-- All the options in attributes, one after the other. -/
def Said (attributes : List (List Tree)) (items : List Setting) : Prop :=
  ∃ groups, Grouped attributes groups ∧ items = groups.flatten

theorem ofAttributes_eq_ok_iff_said {attributes : List (List Tree)} {o : Options} :
    Options.ofAttributes attributes = .ok o ↔
      ∃ items, Said attributes items ∧ o = Options.ofSettings items := by
  rw [Options.ofAttributes_eq_ok_iff]
  constructor
  · rintro ⟨groups, hgroups, rfl⟩
    exact ⟨groups.flatten, ⟨groups, hgroups, rfl⟩, rfl⟩
  · rintro ⟨items, ⟨groups, hgroups, rfl⟩, rfl⟩
    exact ⟨groups, hgroups, rfl⟩

theorem Said.ofAttributes {attributes : List (List Tree)} {items : List Setting}
    (h : Said attributes items) : Options.ofAttributes attributes = .ok (Options.ofSettings items) :=
  ofAttributes_eq_ok_iff_said.mpr ⟨items, h, rfl⟩

/-- A field with the options in its attributes. -/
structure Annotated where
  member : Member
  options : List Setting

namespace Annotated

/-- Whether the field is not left out. -/
def isExposed (a : Annotated) : Bool := .exclude ∉ a.options

/-- The name under which the field is found: the last new one, or else its own. -/
def name (a : Annotated) : String :=
  ((a.options.filterMap Setting.renamed?).getLast?).getD a.member.name

/-- Whether the field is marked as the primary key. -/
def isKey (a : Annotated) : Bool := .primaryKey ∈ a.options

/-- The field as it is found. -/
def field (a : Annotated) : ExposedField :=
  if .relation ∈ a.options then .relation a.name a.member.typeText
  else if .untyped ∈ a.options then .untyped a.name
  else .typed a.name a.member.typeText

/-- The names that the field answers to. -/
def names (a : Annotated) : List String :=
  if .relation ∈ a.options then [a.name, a.name ++ "_id"] else [a.name]

@[simp]
theorem name_field (a : Annotated) : a.field.name = a.name := by
  unfold field
  split
  · rfl
  · split <;> rfl

@[simp]
theorem names_field (a : Annotated) : a.field.names = a.names := by
  unfold field names
  split
  · rfl
  · split <;> rfl

theorem exposedName_eq (a : Annotated) :
    a.member.exposedName (Options.ofSettings a.options) = a.name := by
  rw [Member.exposedName, Options.name_ofSettings, name]

theorem exposed?_eq (a : Annotated) :
    a.member.exposed? (Options.ofSettings a.options) =
      if a.isExposed then some a.field else none := by
  rw [Member.exposed?, exposedName_eq, ExposedField.ofOptions, field]
  simp [isExposed]

theorem primaryKey?_eq (a : Annotated) :
    a.member.primaryKey? (Options.ofSettings a.options) =
      if a.isExposed && a.isKey then some a.name else none := by
  rw [Member.primaryKey?, exposedName_eq, Options.excluded_ofSettings,
    Options.primaryKey_ofSettings, isExposed, isKey]
  by_cases hexcluded : Setting.exclude ∈ a.options <;>
    by_cases hkey : Setting.primaryKey ∈ a.options <;> simp [hexcluded, hkey]

end Annotated

/-- The declaration is a struct without parameters, with these options, and with these fields, all of
which have names. -/
structure Declares (item : Item) (own : List Setting) (fields : List Annotated) : Prop where
  plain : item.parametric = false
  own : Said item.attributes own
  members : item.members = some (fields.map Annotated.member)
  options : ∀ a ∈ fields, Said a.member.attributes a.options

/-- The fields that are not left out. -/
def exposed (fields : List Annotated) : List Annotated := fields.filter Annotated.isExposed

/-- The names of the fields that are marked as the primary key, without those that are left out. -/
def keyNames (fields : List Annotated) : List String :=
  ((exposed fields).filter Annotated.isKey).map Annotated.name

/-! ### The model -/

theorem filterMap_ite {α β : Type} (p : α → Bool) (f : α → β) (list : List α) :
    list.filterMap (fun a => if p a then some (f a) else none) = (list.filter p).map f := by
  rw [← List.filterMap_eq_map, List.filterMap_filter]
  rfl

variable {item : Item} {own : List Setting} {fields : List Annotated}

theorem Declares.mapM_withOptions (h : Declares item own fields) :
    (fields.map Annotated.member).mapM Member.withOptions =
      .ok (fields.map fun a => (a.member, Options.ofSettings a.options)) := by
  rw [mapM_eq_ok_iff, List.forall₂_map_left_iff, List.forall₂_map_right_iff, List.forall₂_same]
  intro a ha
  rw [Member.withOptions, (h.options a ha).ofAttributes]
  rfl

/-- What a declaration describes, by the options in it. -/
theorem Description.ofItem_eq (h : Declares item own fields) :
    Description.ofItem item = .ok {
      model := item.name
      schema := schemaName item.name
      label := ((own.filterMap Setting.labelled?).getLast?).getD item.name
      pk := ((keyNames fields).getLast?).getD "id"
      fields := (exposed fields).map Annotated.field } := by
  have hfields : (fields.map fun a => (a.member, Options.ofSettings a.options)).filterMap
      (fun found => found.1.exposed? found.2) = (exposed fields).map Annotated.field := by
    rw [List.filterMap_map, exposed, ← filterMap_ite]
    exact congrArg (List.filterMap · fields) (funext Annotated.exposed?_eq)
  have hkeys : (fields.map fun a => (a.member, Options.ofSettings a.options)).filterMap
      (fun found => found.1.primaryKey? found.2) = keyNames fields := by
    rw [List.filterMap_map, keyNames, exposed, List.filter_filter, ← filterMap_ite]
    simp only [Bool.and_comm]
    exact congrArg (List.filterMap · fields) (funext Annotated.primaryKey?_eq)
  rw [Description.ofItem, h.plain, h.own.ofAttributes, h.members]
  refine bind_eq_ok.mpr ⟨_, rfl, bind_eq_ok.mpr ⟨_, h.mapM_withOptions, ?_⟩⟩
  show Except.ok (Description.mk _ _ ((Options.ofSettings own).label.getD item.name) _ _) = _
  rw [hfields, hkeys, Options.label_ofSettings]
  rfl

/-- Fields whose options can be read have options. -/
theorem exists_annotated {members : List Member} {found : List (Member × Options)}
    (h : members.mapM Member.withOptions = .ok found) :
    ∃ fields : List Annotated, members = fields.map Annotated.member ∧
      ∀ a ∈ fields, Said a.member.attributes a.options := by
  rw [mapM_eq_ok_iff] at h
  induction h with
  | nil => exact ⟨[], rfl, nofun⟩
  | @cons m _ _ _ hm _ ih =>
    obtain ⟨o, ho, -⟩ := bind_eq_ok.mp hm
    obtain ⟨items, hitems, -⟩ := ofAttributes_eq_ok_iff_said.mp ho
    obtain ⟨fields, rfl, hfields⟩ := ih
    exact ⟨⟨m, items⟩ :: fields, rfl, List.forall_mem_cons.mpr ⟨hitems, hfields⟩⟩

/-- Nothing else describes a model. -/
theorem Description.exists_declares {d : Description} (h : Description.ofItem item = .ok d) :
    ∃ own fields, Declares item own fields := by
  rw [Description.ofItem] at h
  cases hplain : item.parametric with
  | true =>
    rw [hplain] at h
    cases h
  | false =>
    rw [hplain] at h
    obtain ⟨o, ho, h⟩ := bind_eq_ok.mp h
    obtain ⟨own, hown, -⟩ := ofAttributes_eq_ok_iff_said.mp ho
    cases hmembers : item.members with
    | none =>
      rw [hmembers] at h
      cases h
    | some members =>
      rw [hmembers] at h
      obtain ⟨found, hfound, -⟩ := bind_eq_ok.mp h
      obtain ⟨fields, rfl, hfields⟩ := exists_annotated hfound
      exact ⟨own, fields, hplain, hown, hmembers, hfields⟩

/-- **A struct describes the model that its options say**, however they are grouped into attributes.
Its fields are those that are not left out, in order, each under its last new name or else its own;
a relation also answers to that name with `_id` behind it.  The primary key is the last field that is
marked as such, or `id`, and the label is the last one, or the name of the struct.  Fields that are
left out change nothing. -/
theorem Description.ofItem_describes (h : Declares item own fields) :
    ∃ d, Description.ofItem item = .ok d ∧ d.model = item.name ∧
      d.label = ((own.filterMap Setting.labelled?).getLast?).getD item.name ∧
      d.fields = (exposed fields).map Annotated.field ∧
      d.fields.map ExposedField.names = (exposed fields).map Annotated.names ∧
      d.pk = ((keyNames fields).getLast?).getD "id" ∧
      ∀ other others, Declares other own others → other.name = item.name →
        exposed others = exposed fields → Description.ofItem other = .ok d := by
  refine ⟨_, ofItem_eq h, rfl, rfl, rfl, ?_, rfl, ?_⟩
  · rw [List.map_map]
    exact congrArg (List.map · (exposed fields)) (funext Annotated.names_field)
  · intro other others hother hname hexposed
    rw [ofItem_eq hother, keyNames, hexposed, hname, keyNames]

/-- Options in several attributes, some of them repeated, and a key that is left out. -/
theorem Description.ofItem_describes_last :
    let size : Annotated := ⟨⟨[attributeOf [.rename "height", .primaryKey], attributeOf [],
      attributeOf [.untyped, .rename "size", .relation]], "length", [.leaf (.name "Unit")]⟩,
      [.rename "height", .primaryKey, .untyped, .rename "size", .relation]⟩
    let note : Annotated := ⟨⟨[attributeOf [.untyped]], "note", [.leaf (.name "Text")]⟩, [.untyped]⟩
    let code : Annotated := ⟨⟨[attributeOf [.primaryKey], attributeOf [.exclude]], "code",
      [.leaf (.name "i64")]⟩, [.primaryKey, .exclude]⟩
    let item : Item := ⟨[attributeOf [.label "a.A"], attributeOf [.label "b.B"]], "Thing", false,
      some [size.member, note.member, code.member]⟩
    Declares item [.label "a.A", .label "b.B"] [size, note, code] ∧
      ∃ d, Description.ofItem item = .ok d ∧ d.label = "b.B" ∧ d.pk = "size" ∧
        d.fields = [.relation "size" "Unit", .untyped "note"] ∧
        d.fields.map ExposedField.names = [["size", "size_id"], ["note"]] := by
  intro size note code item
  have hdeclares : Declares item [.label "a.A", .label "b.B"] [size, note, code] := by
    refine ⟨rfl, ⟨_, grouped_attributeOf [[.label "a.A"], [.label "b.B"]], rfl⟩, rfl, ?_⟩
    simp only [List.forall_mem_cons]
    exact ⟨⟨_, grouped_attributeOf [[.rename "height", .primaryKey], [],
      [.untyped, .rename "size", .relation]], rfl⟩, ⟨_, grouped_attributeOf [[.untyped]], rfl⟩,
      ⟨_, grouped_attributeOf [[.primaryKey], [.exclude]], rfl⟩, nofun⟩
  obtain ⟨d, hd, -, hlabel, hfields, hnames, hpk, -⟩ := ofItem_describes hdeclares
  exact ⟨hdeclares, d, hd, hlabel, hpk, hfields.trans (by decide), hnames.trans (by decide)⟩

end RecordQuery.Declaration
