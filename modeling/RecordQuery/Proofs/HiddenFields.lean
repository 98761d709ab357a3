import RecordQuery.Proofs.DeclaredModels

/-!
# Fields that are hidden by others

The fields of a declared model are asked one after the other whether they answer to a name.  Two of
them may have the same one, and a relation also answers to the name of its column.  So a field can be
found under its name exactly if no field in front of it takes that name
(`Description.reached_iff_not_taken`); a relation `user` hides a field `user_id` behind it, but not one
in front of it.
-/

namespace RecordQuery.Declaration

variable {item : Item} {list : List Annotated} {d : Description} {name : String}

/-- The field has the name, or is a relation whose column has it. -/
def Annotated.Takes (a : Annotated) (name : String) : Prop :=
  name = a.name ∨ .relation ∈ a.options ∧ name = a.name ++ "_id"

instance (a : Annotated) (name : String) : Decidable (a.Takes name) :=
  inferInstanceAs (Decidable (name = a.name ∨ .relation ∈ a.options ∧ name = a.name ++ "_id"))

theorem Annotated.takes_name (a : Annotated) : a.Takes a.name := Or.inl rfl

theorem Annotated.mem_names_iff {a : Annotated} : name ∈ a.names ↔ a.Takes name := by
  rw [names, Takes]
  by_cases hrelation : Setting.relation ∈ a.options <;> simp [hrelation]

namespace Description

/-- The place of the first field that answers to a name. -/
def answering? (d : Description) (name : String) : Option ℕ :=
  d.fields.findIdx? (·.names.contains name)

theorem field?_eq (d : Description) (name : String) :
    d.field? name = (d.answering? name).bind (d.fields[·]?) :=
  List.find?_eq_bind_findIdx?_getElem?

/-- A name is answered by the first field that takes it. -/
theorem answering?_eq_some_iff (hd : d.fields = list.map Annotated.field) {i : ℕ} :
    d.answering? name = some i ↔
      ∃ hi : i < list.length, list[i].Takes name ∧ ∀ j (hj : j < i), ¬ list[j].Takes name := by
  rw [answering?, hd, List.findIdx?_map, List.findIdx?_eq_some_iff_getElem]
  simp only [Function.comp_def, Annotated.names_field, List.contains_iff_mem,
    Annotated.mem_names_iff]

theorem answering?_name_iff (hd : d.fields = list.map Annotated.field) {i : ℕ}
    (hi : i < list.length) : d.answering? list[i].name = some i ↔
      ∀ j (hj : j < i), ¬ list[j].Takes list[i].name := by
  rw [answering?_eq_some_iff hd]
  constructor
  · rintro ⟨_, _, hfirst⟩
    exact hfirst
  · intro hfirst
    exact ⟨hi, list[i].takes_name, hfirst⟩

/-- **A field is found under its name exactly if no field in front of it takes that name**, be it for
its own or, as a relation, for its column.  So all fields can be found exactly if none takes the name
of a later one.  This holds of every declaration that describes a model. -/
theorem reached_iff_not_taken (hd : Description.ofItem item = .ok d) :
    (∃ own fields, Declares item own fields) ∧
    ∀ own fields, Declares item own fields →
      d.fields = (exposed fields).map Annotated.field ∧
      (∀ name, d.field? name = (d.answering? name).bind (d.fields[·]?)) ∧
      (∀ i (hi : i < (exposed fields).length), d.answering? (exposed fields)[i].name = some i ↔
        ∀ j (hj : j < i), ¬ (exposed fields)[j].Takes (exposed fields)[i].name) ∧
      ((∀ i (hi : i < (exposed fields).length), d.answering? (exposed fields)[i].name = some i) ↔
        (exposed fields).Pairwise fun earlier later => ¬ earlier.Takes later.name) := by
  refine ⟨exists_declares hd, fun own fields h => ?_⟩
  have hfields : d.fields = (exposed fields).map Annotated.field := by
    cases hd.symm.trans (ofItem_eq h)
    rfl
  refine ⟨hfields, d.field?_eq, fun i => answering?_name_iff hfields, ?_⟩
  rw [List.pairwise_iff_getElem]
  constructor
  · intro hall j i hj hi hlt
    exact (answering?_name_iff hfields hi).mp (hall i hi) j hlt
  · intro hpairs i hi
    exact (answering?_name_iff hfields hi).mpr fun j hj => hpairs j i (Nat.lt_trans hj hi) hi hj

/-- A relation in front of a field that has the name of its column; the other way round, both fields
are found. -/
theorem reached_iff_not_taken_user_id :
    let user : Annotated := ⟨⟨[attributeOf [.relation]], "user", [.leaf (.name "User")]⟩, [.relation]⟩
    let userId : Annotated := ⟨⟨[], "user_id", [.leaf (.name "i64")]⟩, []⟩
    let item (fields : List Annotated) : Item :=
      ⟨[], "T", false, some (fields.map Annotated.member)⟩
    (∃ d, Description.ofItem (item [user, userId]) = .ok d ∧
        d.fields = [user.field, userId.field] ∧ d.answering? "user_id" ≠ some 1 ∧
        d.field? "user_id" = some user.field) ∧
      ∃ d, Description.ofItem (item [userId, user]) = .ok d ∧
        d.fields = [userId.field, user.field] ∧ d.answering? "user_id" = some 0 ∧
        d.answering? "user" = some 1 := by
  intro user userId item
  have huser : Said user.member.attributes user.options := ⟨_, grouped_attributeOf [[.relation]], rfl⟩
  have hnone : Said [] [] := ⟨[], .nil, rfl⟩
  have hhidden : Declares (item [user, userId]) [] [user, userId] :=
    ⟨rfl, hnone, rfl, by simp [huser, userId, hnone]⟩
  have hfound : Declares (item [userId, user]) [] [userId, user] :=
    ⟨rfl, hnone, rfl, by simp [huser, userId, hnone]⟩
  have htaken : user.Takes userId.name := by decide
  constructor
  · obtain ⟨hfields, -, hreached, -⟩ := (reached_iff_not_taken (ofItem_eq hhidden)).2 _ _ hhidden
    refine ⟨_, ofItem_eq hhidden, hfields, fun hreach => ?_, rfl⟩
    exact (hreached 1 (by decide)).mp hreach 0 (by decide) htaken
  · obtain ⟨hfields, -, -, hall⟩ := (reached_iff_not_taken (ofItem_eq hfound)).2 _ _ hfound
    have hreached := hall.mpr (by decide)
    exact ⟨_, ofItem_eq hfound, hfields, hreached 0 (by decide), hreached 1 (by decide)⟩

end Description

end RecordQuery.Declaration
