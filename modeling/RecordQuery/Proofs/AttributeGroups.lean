import RecordQuery.Declaration.Options
import RecordQuery.Proofs.Failure

/-!
# Options in groups

Options may be given in one attribute or in several, among attributes of other names (`Grouped`).
Only their order counts, and not how they are grouped (`Options.ofAttributes_regroup`).

Putting attributes together (`Options.merge`) is associative, and no options are neutral for it.  An
option that is set is put together with what was said before (`Options.set_eq_merge`).  So what
options say when one group follows another is what the groups say, put together
(`Options.ofSettings_append`).

There is an attribute for any options (`holds_attributeOf`), so that each way of grouping them comes
about.
-/

namespace RecordQuery.Declaration

open Token (Tree)

/-! ### Putting options together -/

namespace Options

@[simp]
theorem merge_empty (o : Options) : o.merge empty = o := by
  cases o
  simp [merge, empty]

@[simp]
theorem empty_merge (o : Options) : empty.merge o = o := by
  cases o
  simp [merge, empty]

theorem merge_assoc (a b c : Options) : (a.merge b).merge c = a.merge (b.merge c) := by
  simp [merge, Option.or_assoc, Bool.or_assoc]

/-- One more option is put together with what was said before. -/
theorem set_eq_merge (o : Options) (s : Setting) : o.set s = o.merge (empty.set s) := by
  cases s <;> simp [set, merge, empty]

theorem foldl_set (items : List Setting) (o : Options) :
    items.foldl set o = o.merge (ofSettings items) := by
  induction items generalizing o with
  | nil => exact (merge_empty o).symm
  | cons s items ih =>
    rw [ofSettings, List.foldl_cons, List.foldl_cons, ih, ih (empty.set s), set_eq_merge, merge_assoc]

theorem ofSettings_append (items more : List Setting) :
    ofSettings (items ++ more) = (ofSettings items).merge (ofSettings more) := by
  rw [ofSettings, List.foldl_append, foldl_set more]
  rfl

theorem foldl_merge_ofSettings (groups : List (List Setting)) (o : Options) :
    (groups.map ofSettings).foldl merge o = o.merge (ofSettings groups.flatten) := by
  induction groups generalizing o with
  | nil => exact (merge_empty o).symm
  | cons items groups ih =>
    rw [List.map_cons, List.foldl_cons, ih, merge_assoc, List.flatten_cons, ofSettings_append]

end Options

/-! ### Attributes and the options in them -/

variable {content : List Tree} {attributes : List (List Tree)} {items : List Setting}
  {groups : List (List Setting)}

/-- The attribute is one of those that hold options, and holds these. -/
def Holds (content : List Tree) (items : List Setting) : Prop :=
  ∃ tokens args, optionTokens? content = some tokens ∧ arguments tokens = .ok args ∧
    settings args = .ok items

/-- Attributes that hold options, each a group of them, among attributes of other names. -/
inductive Grouped : List (List Tree) → List (List Setting) → Prop where
  | nil : Grouped [] []
  | other {content : List Tree} {attributes : List (List Tree)} {groups : List (List Setting)}
    (hother : optionTokens? content = none) (hrest : Grouped attributes groups) :
    Grouped (content :: attributes) groups
  | options {content : List Tree} {attributes : List (List Tree)} {items : List Setting}
    {groups : List (List Setting)} (hholds : Holds content items)
    (hrest : Grouped attributes groups) : Grouped (content :: attributes) (items :: groups)

theorem Grouped.singleton (h : Holds content items) : Grouped [content] [items] :=
  .options h .nil

namespace Options

theorem ofTokens_eq_ok_iff {tokens : List Tree} {o : Options} : ofTokens tokens = .ok o ↔
    ∃ args items, arguments tokens = .ok args ∧ settings args = .ok items ∧
      o = ofSettings items := by
  rw [ofTokens, bind_eq_ok]
  constructor
  · rintro ⟨args, hargs, h⟩
    obtain ⟨items, hitems, h⟩ := bind_eq_ok.mp h
    cases h
    exact ⟨args, items, hargs, hitems, rfl⟩
  · rintro ⟨args, items, hargs, hitems, rfl⟩
    exact ⟨args, hargs, bind_eq_ok.mpr ⟨items, hitems, rfl⟩⟩

/-- What the attributes say one by one. -/
theorem mapM_ofTokens_eq_ok_iff {results : List Options} :
    (attributes.filterMap optionTokens?).mapM ofTokens = .ok results ↔
      ∃ groups, Grouped attributes groups ∧ results = groups.map ofSettings := by
  rw [mapM_eq_ok_iff]
  constructor
  · intro h
    induction attributes generalizing results with
    | nil =>
      cases h
      exact ⟨[], .nil, rfl⟩
    | cons content attributes ih =>
      cases htokens : optionTokens? content with
      | none =>
        rw [List.filterMap_cons_none htokens] at h
        obtain ⟨groups, hgroups, rfl⟩ := ih h
        exact ⟨groups, .other htokens hgroups, rfl⟩
      | some tokens =>
        rw [List.filterMap_cons_some htokens] at h
        obtain ⟨o, others, ho, hothers, rfl⟩ := List.forall₂_cons_left_iff.mp h
        obtain ⟨args, items, hargs, hitems, rfl⟩ := ofTokens_eq_ok_iff.mp ho
        obtain ⟨groups, hgroups, rfl⟩ := ih hothers
        exact ⟨items :: groups, .options ⟨tokens, args, htokens, hargs, hitems⟩ hgroups, rfl⟩
  · rintro ⟨groups, hgroups, rfl⟩
    induction hgroups with
    | nil => exact .nil
    | other hother _ ih =>
      rw [List.filterMap_cons_none hother]
      exact ih
    | options hholds _ ih =>
      obtain ⟨tokens, args, htokens, hargs, hitems⟩ := hholds
      rw [List.filterMap_cons_some htokens]
      exact .cons (ofTokens_eq_ok_iff.mpr ⟨args, _, hargs, hitems, rfl⟩) ih

/-- Attributes say what the options in them say one after the other. -/
theorem ofAttributes_eq_ok_iff {o : Options} : ofAttributes attributes = .ok o ↔
    ∃ groups, Grouped attributes groups ∧ o = ofSettings groups.flatten := by
  rw [ofAttributes, bind_eq_ok]
  constructor
  · rintro ⟨results, hresults, h⟩
    obtain ⟨groups, hgroups, rfl⟩ := mapM_ofTokens_eq_ok_iff.mp hresults
    cases h
    exact ⟨groups, hgroups, by rw [foldl_merge_ofSettings, empty_merge]⟩
  · rintro ⟨groups, hgroups, rfl⟩
    refine ⟨groups.map ofSettings, mapM_ofTokens_eq_ok_iff.mpr ⟨groups, hgroups, rfl⟩, ?_⟩
    rw [foldl_merge_ofSettings, empty_merge]
    rfl

theorem ofAttributes_of_grouped (h : Grouped attributes groups) :
    ofAttributes attributes = .ok (ofSettings groups.flatten) :=
  ofAttributes_eq_ok_iff.mpr ⟨groups, h, rfl⟩

end Options

/-! ### Options as they are written -/

/-- A character as it is written between quotes. -/
def escaped (c : Char) : List Char :=
  if c = '"' ∨ c = '\\' then ['\\', c] else if c = '\r' then ['\\', 'r'] else [c]

/-- The literal of a text. -/
def quotation (text : String) : String :=
  String.ofList ('"' :: (text.toList.flatMap escaped ++ ['"']))

namespace Setting

/-- The option as it is written. -/
def tokens : Setting → List Tree
  | rename name => [.leaf (.name "rename"), .leaf (.mark '=' false), .leaf (.literal (quotation name))]
  | label text => [.leaf (.name "label"), .leaf (.mark '=' false), .leaf (.literal (quotation text))]
  | exclude => [.leaf (.name "exclude")]
  | relation => [.leaf (.name "relation")]
  | untyped => [.leaf (.name "untyped")]
  | primaryKey => [.leaf (.name "primary_key")]

end Setting

/-- Options as they are written, with a comma behind each. -/
def argumentsOf (items : List Setting) : List Tree :=
  items.flatMap fun s => s.tokens ++ [.leaf (.mark ',' false)]

/-- An attribute that holds options. -/
def attributeOf (items : List Setting) : List Tree :=
  [.leaf (.name "queryset"), .group .paren (argumentsOf items)]

/-- A character is read from how it is written, in one step. -/
theorem decode?_escaped_append (c : Char) (fuel : ℕ) (rest : List Char) :
    Token.decode? (fuel + 1) (escaped c ++ rest) =
      (Token.decode? fuel rest).map (c :: ·) := by
  have hbind : ∀ x : Option (List Char), (do return c :: (← x)) = x.map (c :: ·) := by
    intro x
    cases x <;> rfl
  unfold escaped
  split
  · rename_i hc
    rcases hc with rfl | rfl
    · exact hbind _
    · exact hbind _
  · rename_i hquote
    -- without an escape, a carriage return in front of a line feed would be dropped
    split
    · rename_i hc
      subst hc
      exact hbind _
    · rename_i hreturn
      obtain ⟨hquote, hbackslash⟩ := not_or.mp hquote
      show Token.decode? (fuel + 1) (c :: rest) = _
      -- only the last row of the reader takes a character as it stands
      rw [Token.decode?.eq_def, ← hbind]
      split <;> simp_all

theorem decode?_flatMap_escaped (text : List Char) {fuel : ℕ} (hfuel : text.length < fuel) :
    Token.decode? fuel (text.flatMap escaped ++ ['"']) = some text := by
  induction text generalizing fuel with
  | nil =>
    obtain ⟨fuel, rfl⟩ : ∃ n, fuel = n + 1 := ⟨fuel - 1, by simp at hfuel; omega⟩
    rfl
  | cons c text ih =>
    obtain ⟨fuel, rfl⟩ : ∃ n, fuel = n + 1 := ⟨fuel - 1, by simp at hfuel; omega⟩
    have hmore : text.length < fuel := by simpa using hfuel
    rw [List.flatMap_cons, List.append_assoc, decode?_escaped_append, ih hmore]
    rfl

theorem escaped_ne_nil (c : Char) : escaped c ≠ [] := by
  unfold escaped
  split
  · simp
  · split <;> simp

theorem length_le_flatMap_escaped (text : List Char) :
    text.length ≤ (text.flatMap escaped).length := by
  induction text with
  | nil => exact Nat.le_refl 0
  | cons c text ih =>
    have hpos := List.length_pos_of_ne_nil (escaped_ne_nil c)
    rw [List.flatMap_cons, List.length_append, List.length_cons]
    omega

/-- A text is the value of its literal. -/
theorem stringValue?_quotation (text : String) :
    Token.stringValue? (quotation text) = some text := by
  have hlength := length_le_flatMap_escaped text.toList
  rw [Token.stringValue?, quotation, String.toList_ofList]
  show (Token.decode? _ (text.toList.flatMap escaped ++ ['"'])).map String.ofList = _
  rw [decode?_flatMap_escaped text.toList, Option.map_some, String.ofList_toList]
  rw [List.length_append]
  omega

theorem assignedText_quotation (joint : Bool) (text : String) (rest : List Tree) :
    assignedText (.leaf (.mark '=' joint) :: .leaf (.literal (quotation text)) :: rest) =
      .ok (text, rest) := by
  simp only [assignedText, stringValue?_quotation]

theorem setting_tokens (s : Setting) (rest : List Tree) :
    setting (s.tokens ++ rest) = .ok (s, rest) := by
  cases s with
  | rename name =>
    exact bind_eq_ok.mpr ⟨(name, rest), assignedText_quotation false name rest, rfl⟩
  | label text =>
    exact bind_eq_ok.mpr ⟨(text, rest), assignedText_quotation false text rest, rfl⟩
  | exclude => rfl
  | relation => rfl
  | untyped => rfl
  | primaryKey => rfl

/-- An option, then what ends it, then the others. -/
theorem settings_eq_of_setting {args rest more : List Tree} {s : Setting}
    (hs : setting args = .ok (s, rest)) (hmore : afterComma rest = .ok more) :
    settings args = (s :: ·) <$> settings more := by
  have hne : args.isEmpty = false := by
    cases args with
    | nil => cases hs
    | cons t args => rfl
  rw [settings, hne, if_neg Bool.false_ne_true]
  split
  · rename_i e herror
    cases hs.symm.trans herror
  · rename_i found after hfound
    cases hs.symm.trans hfound
    split
    · rename_i e herror
      cases hmore.symm.trans herror
    · rename_i others hothers
      cases hmore.symm.trans hothers
      rfl

/-- Options are read from how they are written. -/
theorem settings_argumentsOf (items : List Setting) : settings (argumentsOf items) = .ok items := by
  induction items with
  | nil =>
    rw [argumentsOf, settings]
    rfl
  | cons s items ih =>
    have hs : setting (argumentsOf (s :: items)) =
        .ok (s, .leaf (.mark ',' false) :: argumentsOf items) := by
      rw [argumentsOf, List.flatMap_cons, List.append_assoc, setting_tokens]
      rfl
    rw [settings_eq_of_setting hs rfl, ih]
    rfl

theorem holds_attributeOf (items : List Setting) : Holds (attributeOf items) items :=
  ⟨_, argumentsOf items, rfl, rfl, settings_argumentsOf items⟩

theorem grouped_attributeOf (groups : List (List Setting)) :
    Grouped (groups.map attributeOf) groups := by
  induction groups with
  | nil => exact .nil
  | cons items groups ih => exact .options (holds_attributeOf items) ih

/-! ### All groupings -/

/-- **Options say the same however they are grouped into attributes**, whatever attributes of other
names stand between these.  They say what they would say in one attribute, and there is one; and each
way of cutting them into groups, some of which may be empty, comes about. -/
theorem Options.ofAttributes_regroup (h : Grouped attributes groups) :
    Options.ofAttributes attributes = .ok (Options.ofSettings groups.flatten) ∧
    (∃ single, Holds single groups.flatten) ∧
    (∀ single, Holds single groups.flatten →
      Options.ofAttributes [single] = Options.ofAttributes attributes) ∧
    ∀ cut : List (List Setting), cut.flatten = groups.flatten →
      (∃ others, Grouped others cut) ∧
      ∀ others, Grouped others cut →
        Options.ofAttributes others = Options.ofAttributes attributes := by
  have hregroup : ∀ cut : List (List Setting), cut.flatten = groups.flatten →
      ∀ others, Grouped others cut →
        Options.ofAttributes others = Options.ofAttributes attributes := by
    intro cut hcut others hothers
    rw [ofAttributes_of_grouped hothers, ofAttributes_of_grouped h, hcut]
  refine ⟨ofAttributes_of_grouped h, ⟨_, holds_attributeOf groups.flatten⟩, fun single hsingle => ?_,
    fun cut hcut => ⟨⟨_, grouped_attributeOf cut⟩, hregroup cut hcut⟩⟩
  exact hregroup [groups.flatten] (by simp) [single] (.singleton hsingle)

/-- A field is renamed twice, with an attribute of another name and an empty one in between. -/
theorem Options.ofAttributes_regroup_renamed :
    let size : Setting := .rename "size"
    let height : Setting := .rename "height"
    let other : List Tree := [.leaf (.name "serde"), .group .paren [.leaf (.name "skip")]]
    let attributes := [attributeOf [size, .relation], other, attributeOf [], attributeOf [height]]
    let o : Options := ⟨some "height", none, false, true, false, false⟩
    Grouped attributes [[size, .relation], [], [height]] ∧
      Options.ofAttributes attributes = .ok o ∧
      Options.ofAttributes [attributeOf [size], attributeOf [.relation, height]] = .ok o := by
  intro size height other attributes o
  have hgrouped : Grouped attributes [[size, .relation], [], [height]] :=
    .options (holds_attributeOf _) (.other rfl (.options (holds_attributeOf _)
      (.singleton (holds_attributeOf _))))
  obtain ⟨hall, -, -, hregroup⟩ := ofAttributes_regroup hgrouped
  have hcut := (hregroup [[size], [.relation, height]] rfl).2 _ (grouped_attributeOf _)
  exact ⟨hgrouped, hall, hcut.trans hall⟩

end RecordQuery.Declaration
