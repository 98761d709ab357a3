import Mathlib.Data.Set.Card
import Mathlib.Logic.Relation
import RecordQuery.Fixture.Load
import RecordQuery.Proofs.Registered

/-!
# The type of a column

The column of a relation holds the primary key that it leads to, which may be a relation again.
`Fixture.storageType` follows these relations to convert what is stored, and `Registry.field?` to
coerce what is asked for.  Both count the relations that they may follow, and both find the type
that is declared where the relations end (`Registry.EndsAfter`), if they end at all: that is if no
primary key leads back to its own model (`Registry.KeysAcyclic`).

`Registry.keyDepth`, the number of models that the primary key of a model leads to, falls with each
relation that is followed.  So no more relations are followed than there are models, which is less
than both may follow, and the type of what is stored is the type of what is asked for
(`Fixture.storageType_eq_type`).
-/

namespace RecordQuery

namespace Registry

/-! ### Following primary keys -/

/-- The primary key of a model is a relation that leads to another. -/
def KeyLeadsTo (r : Registry) (m related : Model) : Prop :=
  ∃ d, m.fieldDef? m.pk = some d ∧ r.related? d = some related

/-- No primary key leads back to its own model, by way of any number of others. -/
def KeysAcyclic (r : Registry) : Prop := ∀ m, ¬ Relation.TransGen r.KeyLeadsTo m m

/-- Following the relation that a field is, and then the primary keys that it leads to, ends after
`n` relations at a field that is none. -/
inductive EndsAfter (r : Registry) : ℕ → FieldDef → FieldDef → Prop
  | here {d : FieldDef} (h : d.relation = none) : EndsAfter r 0 d d
  | through {n : ℕ} {d key last : FieldDef} {related : Model}
      (hrelated : r.related? d = some related) (hkey : related.fieldDef? related.pk = some key)
      (h : EndsAfter r n key last) : EndsAfter r (n + 1) d last

/-- The number of models that the primary key of a model leads to. -/
noncomputable def keyDepth (r : Registry) (m : Model) : ℕ :=
  {m' | Relation.TransGen r.KeyLeadsTo m m'}.ncard

variable {r : Registry} {m related : Model}

theorem mem_toList_of_transGen (h : Relation.TransGen r.KeyLeadsTo m related) :
    related ∈ r.toList := by
  cases h with
  | single hstep =>
    obtain ⟨d, -, hrelated⟩ := hstep
    exact mem_toList_of_related? hrelated
  | tail _ hstep =>
    obtain ⟨d, -, hrelated⟩ := hstep
    exact mem_toList_of_related? hrelated

/-- What falls with every relation that is followed keeps primary keys from going round. -/
theorem keysAcyclic_of_rank (rank : Model → ℕ)
    (h : ∀ m ∈ r.toList, ∀ related, r.KeyLeadsTo m related → rank related < rank m) :
    r.KeysAcyclic := by
  intro m hcycle
  have hm : m ∈ r.toList := mem_toList_of_transGen hcycle
  have hfalls : ∀ related, Relation.TransGen r.KeyLeadsTo m related → rank related < rank m := by
    intro related hpath
    induction hpath with
    | single hstep => exact h m hm _ hstep
    | tail hpath hstep ih => exact (h _ (mem_toList_of_transGen hpath) _ hstep).trans ih
  exact lt_irrefl _ (hfalls m hcycle)

theorem finite_setOf_mem_toList (r : Registry) : {m | m ∈ r.toList}.Finite :=
  List.finite_toSet r.toList

/-- Every relation that is followed leads to a model whose key leads to fewer. -/
theorem keyDepth_lt_of_keyLeadsTo (hacyclic : r.KeysAcyclic) (h : r.KeyLeadsTo m related) :
    r.keyDepth related < r.keyDepth m := by
  refine Set.ncard_lt_ncard ⟨fun m' hm' => hm'.head h, fun hsubset => ?_⟩ ?_
  · -- the model that is led to is not led to from itself
    exact hacyclic related (hsubset (Relation.TransGen.single h))
  · exact (finite_setOf_mem_toList r).subset fun m' hm' => mem_toList_of_transGen hm'

theorem keyDepth_lt_size (hacyclic : r.KeysAcyclic) (hm : m ∈ r.toList) :
    r.keyDepth m < r.models.size := by
  have hsubset : insert m {m' | Relation.TransGen r.KeyLeadsTo m m'} ⊆ {m | m ∈ r.toList} := by
    rintro m' (rfl | hm')
    · exact hm
    · exact mem_toList_of_transGen hm'
  have hfinite : {m' | Relation.TransGen r.KeyLeadsTo m m'}.Finite :=
    (finite_setOf_mem_toList r).subset ((Set.subset_insert _ _).trans hsubset)
  have hcard : {m | m ∈ r.toList}.ncard ≤ r.toList.length := by
    rw [← List.coe_toFinset, Set.ncard_coe_finset]
    exact List.toFinset_card_le r.toList
  have hlength : r.toList.length = r.models.size := List.length_map _
  calc r.keyDepth m + 1 = (insert m {m' | Relation.TransGen r.KeyLeadsTo m m'}).ncard :=
        (Set.ncard_insert_of_notMem (hacyclic m) hfinite).symm
    _ ≤ {m | m ∈ r.toList}.ncard := Set.ncard_le_ncard hsubset (finite_setOf_mem_toList r)
    _ ≤ r.models.size := hlength ▸ hcard

/-! ### Where the relations end -/

theorem exists_fieldDef?_pk (hkeys : r.KeysDeclared) (hm : m ∈ r.toList) :
    ∃ key ∈ m.fields, m.fieldDef? m.pk = some key := by
  obtain ⟨d, hd, hname⟩ := hkeys m hm
  obtain ⟨key, hkey⟩ := hname ▸ Model.exists_fieldDef?_name hd
  exact ⟨key, List.mem_of_find?_eq_some hkey, hkey⟩

theorem exists_related (hlead : r.RelationsLead) (hm : m ∈ r.toList) {d : FieldDef}
    (hd : d ∈ m.fields) {target : String} (htarget : d.relation = some target) :
    ∃ related ∈ r.toList, r.related? d = some related := by
  obtain ⟨related, hrelated⟩ := hlead m hm d hd target htarget
  refine ⟨related, mem_toList_of_model? hrelated, ?_⟩
  rw [related?, htarget, Option.bind_some, hrelated]

/-- The relations that start at a primary key end, after no more of them than there are models that
the key leads to. -/
theorem exists_endsAfter_pk (hlead : r.RelationsLead) (hkeys : r.KeysDeclared)
    (hacyclic : r.KeysAcyclic) (hm : m ∈ r.toList) :
    ∃ key n last, m.fieldDef? m.pk = some key ∧ n ≤ r.keyDepth m ∧ r.EndsAfter n key last := by
  induction hdepth : r.keyDepth m using Nat.strong_induction_on generalizing m with
  | _ depth ih =>
    obtain ⟨key, hmem, hkey⟩ := exists_fieldDef?_pk hkeys hm
    cases htarget : key.relation with
    | none => exact ⟨key, 0, key, hkey, Nat.zero_le _, .here htarget⟩
    | some target =>
      obtain ⟨related, hregistered, hrelated⟩ := exists_related hlead hm hmem htarget
      have hlt : r.keyDepth related < depth :=
        hdepth ▸ keyDepth_lt_of_keyLeadsTo hacyclic ⟨key, hkey, hrelated⟩
      obtain ⟨key', n, last, hkey', hn, hends⟩ := ih _ hlt hregistered rfl
      exact ⟨key, n + 1, last, hkey, by omega, .through hrelated hkey' hends⟩

theorem exists_endsAfter (hlead : r.RelationsLead) (hkeys : r.KeysDeclared)
    (hacyclic : r.KeysAcyclic) (hm : m ∈ r.toList) {d : FieldDef} (hd : d ∈ m.fields) :
    ∃ n last, n ≤ r.models.size ∧ r.EndsAfter n d last := by
  cases htarget : d.relation with
  | none => exact ⟨0, d, Nat.zero_le _, .here htarget⟩
  | some target =>
    obtain ⟨related, hregistered, hrelated⟩ := exists_related hlead hm hd htarget
    obtain ⟨key, n, last, hkey, hn, hends⟩ := exists_endsAfter_pk hlead hkeys hacyclic hregistered
    have hlt := keyDepth_lt_size hacyclic hregistered
    exact ⟨n + 1, last, by omega, .through hrelated hkey hends⟩

/-! ### The type of what is asked for -/

/-- More steps than there are relations find the type that is declared where they end. -/
theorem fieldTypeWithin_of_endsAfter {n : ℕ} {d last : FieldDef} (h : r.EndsAfter n d last)
    {name : String} (hd : m.fieldDef? name = some d) {fuel : ℕ} (hn : n < fuel) :
    r.fieldTypeWithin fuel m name = last.type := by
  induction h generalizing m name fuel with
  | here hnone =>
    obtain ⟨fuel, rfl⟩ := Nat.exists_eq_add_one_of_ne_zero (by omega : fuel ≠ 0)
    simp only [fieldTypeWithin, hd, related?, hnone, Option.bind_none]
  | through hrelated hkey _ ih =>
    obtain ⟨fuel, rfl⟩ := Nat.exists_eq_add_one_of_ne_zero (by omega : fuel ≠ 0)
    simp only [fieldTypeWithin, hd, hrelated]
    exact ih hkey (by omega)

theorem exists_field?_of_fieldDef? {name : String} {d : FieldDef}
    (hd : m.fieldDef? name = some d) :
    ∃ f, r.field? m name = some f ∧
      f.type = r.fieldTypeWithin (r.models.size + 2) m name := by
  rw [field?, hd, Option.map_some]
  refine ⟨_, rfl, ?_⟩
  simp only [fieldTypeWithin, hd, pkType]
  cases r.related? d <;> rfl

end Registry

namespace Fixture

open Registry

variable {r : Registry} {m : Model}

/-! ### The type of what is stored -/

/-- A primary key that is a relation to its own model leads to it. -/
theorem keyLeadsTo_self (hkeyed : r.Keyed) (hm : m ∈ r.toList) {name : String} {d : FieldDef}
    (hd : m.fieldDef? name = some d) {related : Model} (hrelated : r.related? d = some related)
    (hself : related.label = m.label ∧ related.pk = name) : r.KeyLeadsTo m m := by
  obtain ⟨hlabel, hpk⟩ := hself
  obtain rfl := hkeyed.eq_of_label_eq (mem_toList_of_related? hrelated) hm hlabel
  exact ⟨d, hpk ▸ hd, hrelated⟩

theorem storageTypeWithin_of_endsAfter (hkeyed : r.Keyed) (hacyclic : r.KeysAcyclic) {n : ℕ}
    {d last : FieldDef} (h : r.EndsAfter n d last) (hm : m ∈ r.toList) {name : String}
    (hd : m.fieldDef? name = some d) {fuel : ℕ} (hn : n < fuel) :
    storageTypeWithin r fuel m name = last.type := by
  induction h generalizing m name fuel with
  | here hnone =>
    obtain ⟨fuel, rfl⟩ := Nat.exists_eq_add_one_of_ne_zero (by omega : fuel ≠ 0)
    simp only [storageTypeWithin, hd, hnone]
  | @through n d key last related hrelated hkey _ ih =>
    obtain ⟨fuel, rfl⟩ := Nat.exists_eq_add_one_of_ne_zero (by omega : fuel ≠ 0)
    obtain ⟨target, htarget, hmodel⟩ := Option.bind_eq_some_iff.mp hrelated
    have hself : ¬ (related.label = m.label ∧ related.pk = name) := fun hself =>
      hacyclic m (Relation.TransGen.single (keyLeadsTo_self hkeyed hm hd hrelated hself))
    simp only [storageTypeWithin, hd, htarget, hmodel, if_neg hself]
    exact ih (mem_toList_of_related? hrelated) hkey (by omega)

/-- **What is stored in a column and what is asked of it have one type**, the type that is declared
where the relations end that start at the field, after `n` of them: every number of steps above `n`
finds it, both for what is stored and for what is asked for, and there are no more of them than
there are models. -/
theorem storageType_eq_type {models : List Model} {m : Model} {name : String}
    (hlead : (Registry.ofList models).RelationsLead)
    (hkeys : (Registry.ofList models).KeysDeclared)
    (hacyclic : (Registry.ofList models).KeysAcyclic) (hm : m ∈ (Registry.ofList models).toList)
    (hname : (m.fieldDef? name).isSome) :
    ∃ d n last f, m.fieldDef? name = some d ∧ (Registry.ofList models).EndsAfter n d last ∧
      n ≤ (Registry.ofList models).models.size ∧
      (∀ fuel, n < fuel → storageTypeWithin (.ofList models) fuel m name = last.type ∧
        (Registry.ofList models).fieldTypeWithin fuel m name = last.type) ∧
      (Registry.ofList models).field? m name = some f ∧ f.type = last.type ∧
      storageType (.ofList models) m name = f.type := by
  obtain ⟨d, hd⟩ := Option.isSome_iff_exists.mp hname
  obtain ⟨n, last, hn, hends⟩ :=
    exists_endsAfter hlead hkeys hacyclic hm (List.mem_of_find?_eq_some hd)
  obtain ⟨f, hf, htype⟩ := exists_field?_of_fieldDef? (r := Registry.ofList models) hd
  have hkeyed := keyed_ofList models
  have hstored : ∀ fuel, n < fuel →
      storageTypeWithin (.ofList models) fuel m name = last.type :=
    fun fuel => storageTypeWithin_of_endsAfter hkeyed hacyclic hends hm hd
  have hasked : ∀ fuel, n < fuel →
      (Registry.ofList models).fieldTypeWithin fuel m name = last.type :=
    fun fuel => fieldTypeWithin_of_endsAfter hends hd
  have hflast : f.type = last.type := htype.trans (hasked _ (by omega))
  refine ⟨d, n, last, f, hd, hends, hn, fun fuel hfuel => ⟨hstored fuel hfuel, hasked fuel hfuel⟩,
    hf, hflast, ?_⟩
  rw [hflast, storageType]
  exact hstored _ (by omega)

/-- The key of a badge's member is the key of the member's user, which is a text. -/
theorem storageType_eq_type_through_key :
    let user : Model := ⟨"t.User", "name", [.plain "name" (some .text)]⟩
    let member : Model := ⟨"t.Member", "user", [.related "user" "t.User"]⟩
    let badge : Model :=
      ⟨"t.Badge", "id", [.plain "id" (some .integer), .related "member" "t.member"]⟩
    let r : Registry := .ofList [user, member, badge]
    r.RelationsLead ∧ r.KeysDeclared ∧ r.KeysAcyclic ∧
      ∃ f, r.field? badge "member_id" = some f ∧ storageType r badge "member_id" = f.type ∧
        f.type = some .text := by
  intro user member badge r
  have hmodels : r.toList = [badge, member, user] := by decide
  have huser : r.model? "t.User" = some user := by decide
  have hmember : r.model? "t.member" = some member := by decide
  have hlead : r.RelationsLead := by
    rw [RelationsLead, hmodels]
    simp [badge, member, user, FieldDef.plain, FieldDef.related, huser, hmember]
  have hkeys : r.KeysDeclared := by
    rw [KeysDeclared, hmodels]
    simp [badge, member, user, FieldDef.plain, FieldDef.related]
  have hacyclic : r.KeysAcyclic := by
    -- the only primary key that leads anywhere is that of a member
    refine keysAcyclic_of_rank (fun m => if m = member then 1 else 0) ?_
    rw [hmodels]
    rintro m hm related ⟨d, hd, hrelated⟩
    have hdecided : ∀ m ∈ [badge, member, user],
        (m.fieldDef? m.pk).bind r.related? = if m = member then some user else none := by decide
    have hstep := hdecided m hm
    rw [hd, Option.bind_some, hrelated] at hstep
    split at hstep
    · rename_i h
      obtain rfl := Option.some.inj hstep
      rw [if_pos h, if_neg (by decide)]
      exact Nat.one_pos
    · cases hstep
  have hbadge : badge ∈ r.toList := by rw [hmodels]; exact List.mem_cons_self
  have hstored : storageType r badge "member_id" = some .text := by decide
  have hname : (badge.fieldDef? "member_id").isSome := by decide
  obtain ⟨d, n, last, f, -, -, -, -, hf, -, htype⟩ :=
    storageType_eq_type hlead hkeys hacyclic hbadge hname
  exact ⟨hlead, hkeys, hacyclic, f, hf, htype, htype.symm.trans hstored⟩

end Fixture

end RecordQuery
