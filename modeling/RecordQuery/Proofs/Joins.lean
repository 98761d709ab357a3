import Mathlib
import RecordQuery.Proofs.Rejection

/-!
# Asking through relations

`Database.valueAt` collects the values at the end of a path, in lists within lists where relations
lead to several rows, and a condition is asked of all of them at once.  `Database.answer` asks from
row to row instead.  A relation answers as the row does that it leads to, as nothing does if there
is none, and if it leads to several rows then as some of them does.  Both give the same answer
(`Database.evaluate_valueAt`).

So it plays no part in which order a relation holds its keys, or how often it holds one.  Two
databases that differ in nothing else (`Database.Alike`) answer every lookup alike
(`Database.Alike.satisfies_eq`), and fail for the same ones.
-/

namespace RecordQuery

/-! ### Asking lists -/

namespace Condition

theorem evaluateAny_eq_any (c : Condition) (items : List Value) :
    c.evaluateAny items = items.any c.evaluate := by
  induction items with
  | nil => rfl
  | cons item items ih => rw [evaluateAny, ih, List.any_cons]

theorem evaluate_list {items : List Value} (h : items ≠ []) (c : Condition) :
    c.evaluate (.list items) = items.any c.evaluate := by
  cases items with
  | nil => exact absurd rfl h
  | cons item items => rw [evaluate, evaluateAny_eq_any, List.any_cons]

end Condition

namespace Database

/-! ### Asking from row to row -/

/-- What the row with a primary key answers; without such a row there is no value to ask. -/
def answerBehind (db : Database) (c : Condition) (m : Model) (ask : Row → Bool) (pk : Value) :
    Bool :=
  match db.get? m pk with
  | some row => ask row
  | none => c.onNull

/-- What the rows answer that a stored value of a relation leads to. -/
def answerThrough (db : Database) (c : Condition) (m : Model) (ask : Row → Bool) : Value → Bool
  | .null => c.onNull
  | .list [] => c.onEmpty
  | .list pks => pks.any (db.answerBehind c m ask)
  | pk => db.answerBehind c m ask pk

/-- The answer to a condition at the end of a path that starts at a row of a model. -/
def answer (db : Database) (c : Condition) (m : Model) (row : Row) : List String → Bool
  | [] => false
  | head :: rest =>
    match m.fieldDef? head with
    | none => false
    | some d =>
      match rest with
      | [] => c.evaluate (stored m row d)
      | next :: more =>
        match db.registry.related? d with
        | none => false
        | some related =>
          db.answerThrough c related (fun row => answer db c related row (next :: more))
            (stored m row d)

variable {db db' : Database} {c : Condition} {m : Model}

theorem answer_cons_of_none {head : String} (row : Row) (rest : List String)
    (h : m.fieldDef? head = none) : db.answer c m row (head :: rest) = false := by
  rw [answer.eq_def]
  dsimp only
  rw [h]

theorem answer_singleton {head : String} {d : FieldDef} (row : Row)
    (h : m.fieldDef? head = some d) : db.answer c m row [head] = c.evaluate (stored m row d) := by
  rw [answer.eq_def]
  dsimp only
  rw [h]

theorem answer_cons_cons {head : String} {d : FieldDef} (row : Row) (next : String)
    (more : List String) (h : m.fieldDef? head = some d) :
    db.answer c m row (head :: next :: more) =
      match db.registry.related? d with
      | some related =>
        db.answerThrough c related (fun row => db.answer c related row (next :: more))
          (stored m row d)
      | none => false := by
  rw [answer.eq_def]
  dsimp only
  rw [h]
  cases hrel : db.registry.related? d <;> simp only [hrel]

/-! ### Collecting and asking -/

section Collecting

variable {read : Row → Except StoreError Value} {ask : Row → Bool}
  (hread : ∀ row v, read row = .ok v → c.evaluate v = ask row)

include hread

theorem evaluate_follow {pk v : Value} (h : db.follow m read pk = .ok v) :
    c.evaluate v = db.answerBehind c m ask pk := by
  rw [follow] at h
  rw [answerBehind]
  cases hrow : db.get? m pk with
  | none =>
    rw [hrow] at h
    cases h
    rfl
  | some row =>
    rw [hrow] at h
    exact hread row v h

theorem map_evaluate_mapM_follow {pks values : List Value}
    (h : pks.mapM (db.follow m read) = .ok values) :
    values.map c.evaluate = pks.map (db.answerBehind c m ask) := by
  induction pks generalizing values with
  | nil =>
    cases h
    rfl
  | cons pk pks ih =>
    rw [List.mapM_cons] at h
    obtain ⟨first, hfirst, h⟩ := bind_eq_ok.mp h
    obtain ⟨rest, hrest, h⟩ := bind_eq_ok.mp h
    cases h
    rw [List.map_cons, List.map_cons, ih hrest, evaluate_follow hread hfirst]

theorem evaluate_throughRelation {v result : Value}
    (h : db.throughRelation m read v = .ok result) :
    c.evaluate result = db.answerThrough c m ask v := by
  cases v with
  | null =>
    cases h
    rfl
  | list pks =>
    rw [throughRelation, map_eq_ok] at h
    obtain ⟨values, hvalues, rfl⟩ := h
    have hanswers := map_evaluate_mapM_follow hread hvalues
    -- an empty list is asked for itself, and a longer one for its entries
    cases pks with
    | nil =>
      obtain rfl : values = [] := List.map_eq_nil_iff.mp hanswers
      rfl
    | cons pk pks =>
      have hne : values ≠ [] := by
        rintro rfl
        cases hanswers
      calc c.evaluate (.list values) = values.any c.evaluate := Condition.evaluate_list hne c
        _ = (values.map c.evaluate).any id := by rw [List.any_map, Function.id_comp]
        _ = ((pk :: pks).map (db.answerBehind c m ask)).any id := by rw [hanswers]
        _ = (pk :: pks).any (db.answerBehind c m ask) := by rw [List.any_map, Function.id_comp]
  | bool _ | int _ | float _ | text _ | dateTime _ => exact evaluate_follow hread h

end Collecting

/-- **Collecting the values at the end of a path and asking from row to row give one answer.** -/
theorem evaluate_valueAt {row : Row} {path : List String} {v : Value}
    (h : db.valueAt m row path = .ok v) : c.evaluate v = db.answer c m row path := by
  -- for every model and row at once, since a relation leads to others
  induction path generalizing m row v with
  | nil => cases h
  | cons head rest ih =>
    cases hd : m.fieldDef? head with
    | none =>
      rw [valueAt_cons_of_none row rest hd] at h
      cases h
    | some d =>
      cases rest with
      | nil =>
        rw [valueAt_singleton row hd] at h
        cases h
        rw [answer_singleton row hd]
      | cons next more =>
        rw [valueAt_cons_cons row next more hd] at h
        rw [answer_cons_cons row next more hd]
        cases hrel : db.registry.related? d with
        | none =>
          rw [hrel] at h
          cases h
        | some related =>
          rw [hrel] at h
          exact evaluate_throughRelation (fun row' v' h' => ih h') h

end Database

/-! ### Databases that differ in the order of keys -/

/-- The same value, or lists with the same entries, in any order and each any number of times. -/
inductive Value.SameEntries : Value → Value → Prop
  | refl (v : Value) : SameEntries v v
  | list {items items' : List Value} (h : ∀ v, v ∈ items ↔ v ∈ items') :
      SameEntries (.list items) (.list items')

/-- Rows with one primary key that store lists of the same entries, and else the same values. -/
structure Row.Alike (row row' : Row) : Prop where
  pk : row.pk = row'.pk
  values : ∀ field, (row.get field).SameEntries (row'.get field)

/-- Databases whose rows are alike, one by one. -/
structure Database.Alike (db db' : Database) : Prop where
  registry : db.registry = db'.registry
  rows : ∀ m, List.Forall₂ Row.Alike (db.rows m) (db'.rows m)

namespace Value.SameEntries

section Lists

variable {items items' : List Value} (h : ∀ v, v ∈ items ↔ v ∈ items')

include h

theorem eq_nil_iff : items = [] ↔ items' = [] := by
  simp only [List.eq_nil_iff_forall_not_mem, h]

theorem any_eq (p : Value → Bool) : items.any p = items'.any p := by
  rw [Bool.eq_iff_iff, List.any_eq_true, List.any_eq_true]
  simp only [h]

end Lists

variable {v v' : Value}

theorem symm (h : v.SameEntries v') : v'.SameEntries v := by
  cases h with
  | refl => exact .refl v
  | list h => exact .list fun item => (h item).symm

theorem evaluate_eq (h : v.SameEntries v') (c : Condition) : c.evaluate v = c.evaluate v' := by
  cases h with
  | refl => rfl
  | @list items items' h =>
    by_cases hnil : items = []
    · rw [hnil, (eq_nil_iff h).mp hnil]
    · have hnil' : items' ≠ [] := fun h' => hnil ((eq_nil_iff h).mpr h')
      rw [Condition.evaluate_list hnil, Condition.evaluate_list hnil', any_eq h]

theorem mem_storedKeys_iff (h : v.SameEntries v') (pk : Value) :
    pk ∈ Database.storedKeys v ↔ pk ∈ Database.storedKeys v' := by
  cases h with
  | refl => rfl
  | list h => exact h pk

end Value.SameEntries

namespace Row.Alike

variable {row row' : Row}

theorem refl (row : Row) : row.Alike row := ⟨rfl, fun _ => .refl _⟩

theorem symm (h : row.Alike row') : row'.Alike row :=
  ⟨h.pk.symm, fun field => (h.values field).symm⟩

theorem stored (h : row.Alike row') (m : Model) (d : FieldDef) :
    (Database.stored m row d).SameEntries (Database.stored m row' d) := by
  rw [Database.stored, Database.stored, h.pk]
  split
  · exact .refl _
  · exact h.values d.name

/-- A list that is stored in a field gives way to another one of the same entries. -/
theorem set {field : String} {keys keys' : List Value} (hkeys : row.get field = .list keys)
    (hentries : ∀ key, key ∈ keys' ↔ key ∈ keys) : row.Alike (row.set field (.list keys')) := by
  refine ⟨rfl, fun other => ?_⟩
  by_cases heq : other = field
  · subst heq
    have hset : (row.set other (.list keys')).get other = .list keys' := by
      rw [Row.get, Row.set, SortedMap.get?_insert_self, Option.getD_some]
    rw [hkeys, hset]
    exact .list fun key => (hentries key).symm
  · have hset : (row.set field (.list keys')).get other = row.get other := by
      rw [Row.get, Row.set, SortedMap.get?_insert_of_ne _ heq, Row.get]
    rw [hset]
    exact .refl _

end Row.Alike

namespace Database

/-- The database with other rows of a model. -/
def withRows (db : Database) (m : Model) (rows : List Row) : Database :=
  { db with tables := db.tables.insert (Text.lowerCase m.label) rows }

variable {db db' : Database} {m : Model}

theorem rows_withRows (rows : List Row) (m' : Model) :
    (db.withRows m rows).rows m' =
      if Text.lowerCase m'.label = Text.lowerCase m.label then rows else db.rows m' := by
  rw [Database.rows, withRows]
  split
  · rename_i heq
    rw [heq, SortedMap.get?_insert_self, Option.getD_some]
  · rename_i hne
    rw [SortedMap.get?_insert_of_ne _ hne, Database.rows]

namespace Alike

theorem symm (h : db.Alike db') : db'.Alike db :=
  ⟨h.registry.symm, fun m => (h.rows m).flip.imp fun _ _ hrow => hrow.symm⟩

/-- Databases are alike that differ in one row, where the rows are alike. -/
theorem withRows {before after : List Row} {row row' : Row}
    (hrows : db.rows m = before ++ row :: after) (hrow : row.Alike row') :
    db.Alike (db.withRows m (before ++ row' :: after)) := by
  refine ⟨rfl, fun m' => ?_⟩
  have hsame : ∀ rows : List Row, List.Forall₂ Row.Alike rows rows :=
    fun rows => List.forall₂_same.mpr fun row _ => .refl row
  rw [rows_withRows]
  split
  · rename_i heq
    have hm' : db.rows m' = before ++ row :: after := by
      rw [← hrows, Database.rows, Database.rows, heq]
    rw [hm']
    exact List.rel_append (hsame before) (.cons hrow (hsame after))
  · exact hsame _

/-- A key leads to rows that are alike, or to none in either. -/
theorem get? (h : db.Alike db') (m : Model) (pk : Value) :
    Option.Rel Row.Alike (db.get? m pk) (db'.get? m pk) := by
  have hfind : ∀ rows rows', List.Forall₂ Row.Alike rows rows' →
      Option.Rel Row.Alike (rows.find? (·.pk.equals pk)) (rows'.find? (·.pk.equals pk)) := by
    intro rows rows' hrows
    -- rows that are alike have one key, so the same of them is the first
    induction hrows with
    | nil => exact .none
    | cons hrow _ ih =>
      rw [List.find?_cons, List.find?_cons, hrow.pk]
      split
      · exact .some hrow
      · exact ih
  exact hfind _ _ (h.rows m)

theorem answerBehind_eq (h : db.Alike db') (c : Condition) {ask ask' : Row → Bool}
    (hask : ∀ row row', row.Alike row' → ask row = ask' row') :
    db.answerBehind c m ask = db'.answerBehind c m ask' := by
  funext pk
  rw [answerBehind, answerBehind]
  match db.get? m pk, db'.get? m pk, h.get? m pk with
  | none, none, _ => rfl
  | some row, some row', .some hrow => exact hask row row' hrow

theorem answerThrough_eq (h : db.Alike db') (c : Condition) {ask ask' : Row → Bool}
    (hask : ∀ row row', row.Alike row' → ask row = ask' row') {v v' : Value}
    (hv : v.SameEntries v') : db.answerThrough c m ask v = db'.answerThrough c m ask' v' := by
  have hbehind : db.answerBehind c m ask = db'.answerBehind c m ask' := h.answerBehind_eq c hask
  cases hv with
  | refl => cases v <;> simp only [answerThrough, hbehind]
  | @list items items' hitems =>
    cases items with
    | nil =>
      rw [(Value.SameEntries.eq_nil_iff hitems).mp rfl]
      rfl
    | cons pk pks =>
      cases items' with
      | nil => cases (Value.SameEntries.eq_nil_iff hitems).mpr rfl
      | cons pk' pks' =>
        simp only [answerThrough, hbehind]
        exact Value.SameEntries.any_eq hitems _

theorem answer_eq (h : db.Alike db') (c : Condition) {row row' : Row} (hrow : row.Alike row')
    (path : List String) : db.answer c m row path = db'.answer c m row' path := by
  induction path generalizing m row row' with
  | nil => rfl
  | cons head rest ih =>
    cases hd : m.fieldDef? head with
    | none => rw [answer_cons_of_none row rest hd, answer_cons_of_none row' rest hd]
    | some d =>
      cases rest with
      | nil =>
        rw [answer_singleton row hd, answer_singleton row' hd]
        exact (hrow.stored m d).evaluate_eq c
      | cons next more =>
        rw [answer_cons_cons row next more hd, answer_cons_cons row' next more hd, h.registry]
        cases db'.registry.related? d with
        | none => rfl
        | some related => exact h.answerThrough_eq c (fun _ _ hrow => ih hrow) (hrow.stored m d)

/-- Where the keys lead to a missing segment plays no part in their order either. -/
theorem arrives (h : db.Alike db') {row row' : Row} (hrow : row.Alike row') {path : List String}
    (harrives : db.Arrives m row path) : db'.Arrives m row' path := by
  -- the key that leads on is an entry of both lists, and the rows that it leads to are alike
  induction harrives generalizing row' with
  | ended => exact .ended
  | unnamed hhead => exact .unnamed hhead
  | unrelated hhead hrelated => exact .unrelated hhead (h.registry ▸ hrelated)
  | @through m related row next _ _ _ d pk hhead hrelated hpk hfound _ ih =>
    have hpk' := ((hrow.stored m d).mem_storedKeys_iff pk).mp hpk
    have hrel := h.get? related pk
    rw [hfound] at hrel
    match hfound' : db'.get? related pk, hrel with
    | some next', .some hnext =>
      exact .through hhead (h.registry ▸ hrelated) hpk' hfound' (ih hnext)

theorem valueAt_eq_error (h : db.Alike db') {row row' : Row} (hrow : row.Alike row')
    {path : List String} {e : StoreError} (he : db.valueAt m row path = .error e) :
    db'.valueAt m row' path = .error e := by
  rw [valueAt_eq_error_iff] at he ⊢
  exact ⟨h.arrives hrow he.1, h.registry ▸ he.2⟩

/-- **Databases that are alike answer alike**, whatever is asked at the end of a path. -/
theorem map_evaluate_valueAt (h : db.Alike db') (c : Condition) {row row' : Row}
    (hrow : row.Alike row') (path : List String) :
    (db.valueAt m row path).map c.evaluate = (db'.valueAt m row' path).map c.evaluate := by
  cases hv : db.valueAt m row path with
  | error e => rw [h.valueAt_eq_error hrow hv]
  | ok v =>
    cases hv' : db'.valueAt m row' path with
    | error e =>
      rw [h.symm.valueAt_eq_error hrow.symm hv'] at hv
      cases hv
    | ok v' =>
      show Except.ok (c.evaluate v) = .ok (c.evaluate v')
      rw [evaluate_valueAt hv, evaluate_valueAt hv', h.answer_eq c hrow]

theorem satisfies_eq (h : db.Alike db') {row row' : Row} (hrow : row.Alike row') (key : String)
    (rhs : Value) :
    RowSet.satisfies db m row key rhs = RowSet.satisfies db' m row' key rhs := by
  rw [RowSet.satisfies, RowSet.satisfies]
  cases (Condition.ofOperator (Lookup.split key).operator rhs).mapError StoreError.badOperand with
  | error e => rfl
  | ok c => exact h.map_evaluate_valueAt c hrow _

end Alike

/-- **Asking through relations joins.**  At the end of a path that can be walked, a condition
answers as it does from row to row.  And in a list that a row stores in a field, that is outside its
primary key, neither the order of the entries nor their number plays a part in the answer to any
lookup, for this row or any other. -/
theorem answers_joined (db : Database) (m : Model) :
    (∀ path type, db.registry.walk m path = .ok type → ∀ (c : Condition) row,
      ∃ v, db.valueAt m row path = .ok v ∧ c.evaluate v = db.answer c m row path) ∧
    ∀ before row after field keys keys', db.rows m = before ++ row :: after →
      row.get field = .list keys → (∀ key, key ∈ keys' ↔ key ∈ keys) →
      let row' := row.set field (.list keys')
      let db' := db.withRows m (before ++ row' :: after)
      ∀ m' key rhs,
        RowSet.satisfies db' m' row' key rhs = RowSet.satisfies db m' row key rhs ∧
        ∀ other, RowSet.satisfies db' m' other key rhs = RowSet.satisfies db m' other key rhs := by
  constructor
  · intro path type hwalk c row
    obtain ⟨v, hv⟩ := valueAt_ok_of_walk hwalk row
    exact ⟨v, hv, evaluate_valueAt hv⟩
  · intro before row after field keys keys' hrows hkeys hentries row' db' m' key rhs
    have hrow : row.Alike row' := Row.Alike.set hkeys hentries
    have halike : db.Alike db' := Alike.withRows hrows hrow
    refine ⟨(halike.satisfies_eq hrow key rhs).symm, fun other => ?_⟩
    exact (halike.satisfies_eq (Row.Alike.refl other) key rhs).symm

/-- One of two friends has a row, and is named last and then twice. -/
theorem answers_joined_friends :
    let m : Model := ⟨"t.T", "id", [.plain "n" (some .integer), .related "friends" "t.T"]⟩
    let row : Row := (Row.new (.int 1)).set "friends" (.list [.int 9, .int 2])
    let friend : Row := (Row.new (.int 2)).set "n" (.int 7)
    let db : Database := ⟨.ofList [m], SortedMap.empty.insert "t.t" [row, friend]⟩
    let row' : Row := row.set "friends" (.list [.int 2, .int 2, .int 9])
    (∃ v, db.valueAt m row ["friends", "n"] = .ok v ∧
      (Condition.compares [.gt] (.int 6)).evaluate v = true) ∧
    RowSet.satisfies (db.withRows m [row', friend]) m row' "friends__n__gt" (.int 6) =
      .ok true := by
  intro m row friend db row'
  have hwalk : db.registry.walk m ["friends", "n"] = .ok (some .integer) := by decide
  have hanswer : db.answer (.compares [.gt] (.int 6)) m row ["friends", "n"] = true := by cbv
  have hsatisfies : RowSet.satisfies db m row "friends__n__gt" (.int 6) = .ok true := by cbv
  have hrows : db.rows m = [] ++ row :: [friend] := by cbv
  have hkeys : row.get "friends" = .list [.int 9, .int 2] := by cbv
  have hentries : ∀ key, key ∈ [Value.int 2, .int 2, .int 9] ↔ key ∈ [Value.int 9, .int 2] := by
    intro key
    simp only [List.mem_cons, List.not_mem_nil, or_false, or_self_left]
    exact or_comm
  obtain ⟨hjoined, halike⟩ := answers_joined db m
  obtain ⟨v, hv, hevaluate⟩ := hjoined _ _ hwalk (.compares [.gt] (.int 6)) row
  refine ⟨⟨v, hv, hevaluate.trans hanswer⟩, ?_⟩
  obtain ⟨hsame, -⟩ := halike _ _ _ _ _ _ hrows hkeys hentries m "friends__n__gt" (.int 6)
  exact hsame.trans hsatisfies

end Database

end RecordQuery
