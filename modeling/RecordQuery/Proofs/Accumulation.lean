import RecordQuery.Proofs.ExpressionLaws

/-!
# Collecting clauses call by call

A filter is given its clauses by calls of four kinds (`Call`).  Whatever the calls and their order,
each pair that they send goes to one of two groups, and a group is the map that the pairs sent to it
write one after the other: its keys stand in the order in which each was first sent, and each has
the value that was sent last (`perform_collects`).

What a call sends is told by `Call.sent` without a filter at hand.  A parameter whose key begins with
`excludeMark` is to exclude by, under what follows the mark; only one mark is taken off.  Parameters
of a request that have no value, or whose whole key is ignored, are not sent, and so take nothing
away that was sent before.

As a group depends only on what is sent to it, calls may be put in any order, and may be cut up or
merged, as long as each group is sent the same pairs in the same order.
-/

namespace RecordQuery

/-! ### The mark in front of a key -/

namespace QueryFilter

theorem excluded?_eq (key : String) :
    excluded? key =
      if excludeMark.toList <+: key.toList then
        some (String.ofList (key.toList.drop excludeMark.toList.length))
      else none := by
  rw [excluded?, Text.stripStart?_eq]
  split <;> rfl

/-! ### What is sent where -/

/-- The two groups of clauses of a filter. -/
inductive Group where
  /-- What rows have to satisfy. -/
  | filter
  /-- What rows are excluded by. -/
  | exclude
  deriving DecidableEq

/-- The clauses of a group. -/
def clauses (f : QueryFilter) : Group → Clauses
  | .filter => f.filterClauses
  | .exclude => f.excludeClauses

/-- A call that gives clauses to a filter. -/
inductive Call where
  | filter (clauses : Clauses)
  | exclude (clauses : Clauses)
  | params (pairs : List (String × String))
  | queryParams (pairs : List (String × String)) (ignored : List String)

/-- What a call makes of a filter. -/
def perform (f : QueryFilter) : Call → QueryFilter
  | .filter clauses => f.addFilter clauses
  | .exclude clauses => f.addExclude clauses
  | .params pairs => f.addParams pairs
  | .queryParams pairs ignored => f.addQueryParams pairs ignored

/-- The group that a parameter is for, and the pair that it is there. -/
def routed (p : String × String) : Group × String × String :=
  if excludeMark.toList <+: p.1.toList then
    (.exclude, String.ofList (p.1.toList.drop excludeMark.toList.length), p.2)
  else (.filter, p)

/-- The pairs that a call sends, each with the group that it is for, in order. -/
def Call.sent : Call → List (Group × String × String)
  | .filter clauses => clauses.toList.map fun p => (.filter, p)
  | .exclude clauses => clauses.toList.map fun p => (.exclude, p)
  | .params pairs => pairs.map routed
  | .queryParams pairs ignored => (pairs.filter fun p => p.2 ≠ "" ∧ p.1 ∉ ignored).map routed

/-- The pairs for one of the groups, in order. -/
def pairsFor (g : Group) (sent : List (Group × String × String)) : List (String × String) :=
  (sent.filter fun p => p.1 = g).map Prod.snd

/-- The pairs that calls send to a group, in order. -/
def sentTo (g : Group) (calls : List Call) : List (String × String) :=
  pairsFor g (calls.flatMap Call.sent)

theorem pairsFor_append (g : Group) (first second : List (Group × String × String)) :
    pairsFor g (first ++ second) = pairsFor g first ++ pairsFor g second := by
  rw [pairsFor, List.filter_append, List.map_append]
  rfl

/-- Pairs that are all for one group are all that this group gets, and no other gets any. -/
theorem pairsFor_map (g h : Group) (pairs : List (String × String)) :
    pairsFor g (pairs.map fun p => (h, p)) = if h = g then pairs else [] := by
  rw [pairsFor, List.filter_map, List.map_map]
  split
  · rename_i hgroup
    simp [Function.comp_def, hgroup]
  · rename_i hgroup
    simp [Function.comp_def, hgroup]

/-! ### One call -/

theorem clauses_addParam (f : QueryFilter) (p : String × String) (g : Group) :
    (f.addParam p.1 p.2).clauses g = (f.clauses g).insertMany (pairsFor g [routed p]) := by
  rw [addParam, excluded?_eq, routed]
  by_cases hmark : excludeMark.toList <+: p.1.toList
  · rw [if_pos hmark, if_pos hmark]
    cases g <;> rfl
  · rw [if_neg hmark, if_neg hmark]
    cases g <;> rfl

theorem clauses_addParams (f : QueryFilter) (params : List (String × String)) (g : Group) :
    (f.addParams params).clauses g = (f.clauses g).insertMany (pairsFor g (params.map routed)) := by
  induction params generalizing f with
  | nil => rfl
  | cons p params ih =>
    have hfirst := clauses_addParam f p g
    have hrest : (f.addParams (p :: params)).clauses g =
        ((f.addParam p.1 p.2).addParams params).clauses g := rfl
    rw [hrest, ih, hfirst, ← OrderedMap.insertMany_append, ← pairsFor_append]
    rfl

/-- A call writes to each group what it sends there, and nothing else. -/
theorem clauses_perform (f : QueryFilter) (call : Call) (g : Group) :
    (f.perform call).clauses g = (f.clauses g).insertMany (pairsFor g call.sent) := by
  cases call with
  | filter clauses =>
    rw [Call.sent, pairsFor_map]
    cases g <;> rfl
  | exclude clauses =>
    rw [Call.sent, pairsFor_map]
    cases g <;> rfl
  | params pairs => exact clauses_addParams f pairs g
  | queryParams pairs ignored =>
    rw [perform, addQueryParams, clauses_addParams, Call.sent]
    congr 4
    funext p
    simp

theorem resolver_addParams (f : QueryFilter) (params : List (String × String)) :
    (f.addParams params).resolver = f.resolver := by
  induction params generalizing f with
  | nil => rfl
  | cons p params ih =>
    have hfirst : (f.addParam p.1 p.2).resolver = f.resolver := by
      rw [addParam]
      split <;> rfl
    exact (ih _).trans hfirst

theorem resolver_perform (f : QueryFilter) (call : Call) :
    (f.perform call).resolver = f.resolver := by
  cases call with
  | filter clauses => rfl
  | exclude clauses => rfl
  | params pairs => exact resolver_addParams f pairs
  | queryParams pairs ignored => exact resolver_addParams f _

/-! ### All calls -/

theorem ext_clauses {f f' : QueryFilter} (hresolver : f.resolver = f'.resolver)
    (hclauses : ∀ g, f.clauses g = f'.clauses g) : f = f' := by
  obtain ⟨s, filters, excludes⟩ := f
  obtain ⟨s', filters', excludes'⟩ := f'
  have hfilters : filters = filters' := hclauses .filter
  have hexcludes : excludes = excludes' := hclauses .exclude
  simp only at hresolver
  rw [hresolver, hfilters, hexcludes]

theorem resolver_foldl_perform (f : QueryFilter) (calls : List Call) :
    (calls.foldl perform f).resolver = f.resolver := by
  induction calls generalizing f with
  | nil => rfl
  | cons call calls ih => exact (ih _).trans (resolver_perform f call)

/-- Calls write to each group what they send there, one after the other. -/
theorem clauses_foldl_perform (f : QueryFilter) (calls : List Call) (g : Group) :
    (calls.foldl perform f).clauses g = (f.clauses g).insertMany (sentTo g calls) := by
  induction calls generalizing f with
  | nil => rfl
  | cons call calls ih =>
    rw [List.foldl_cons, ih, clauses_perform, ← OrderedMap.insertMany_append, sentTo,
      ← pairsFor_append, sentTo, List.flatMap_cons]

/-- Calls that send each group the same pairs in the same order come to the same filter. -/
theorem foldl_perform_congr (f : QueryFilter) {calls others : List Call}
    (h : ∀ g, sentTo g others = sentTo g calls) :
    others.foldl perform f = calls.foldl perform f := by
  apply ext_clauses
  · rw [resolver_foldl_perform, resolver_foldl_perform]
  · intro g
    rw [clauses_foldl_perform, clauses_foldl_perform, h g]

/-- **Each group is the map of the pairs that are sent to it.**  The keys of a group stand in the
order in which each was first sent there, and each has the value that was sent there last.  So calls
in another order that keeps the order of the pairs within each group give the same filter. -/
theorem perform_collects (s : Resolver) (calls : List Call) :
    (∀ g,
      ((calls.foldl perform (new s)).clauses g) = .ofList (sentTo g calls) ∧
      ((calls.foldl perform (new s)).clauses g).keys =
        ((sentTo g calls).map Prod.fst).eraseDups ∧
      ∀ key, ((calls.foldl perform (new s)).clauses g).get? key =
        (sentTo g calls).reverse.lookup key) ∧
    ∀ others, (∀ g, sentTo g others = sentTo g calls) →
      ∀ f, others.foldl perform f = calls.foldl perform f := by
  constructor
  · intro g
    have hmap : (calls.foldl perform (new s)).clauses g = .ofList (sentTo g calls) := by
      rw [clauses_foldl_perform]
      cases g <;> rfl
    exact ⟨hmap, OrderedMap.eq_ofList_iff.mp hmap⟩
  · intro others hsent f
    exact foldl_perform_congr f hsent

/-- A mark behind a mark, values that are replaced, and parameters that are dropped. -/
theorem perform_collects_marked_twice :
    let calls : List Call :=
      [.params [("exclude__exclude__a", "1"), ("exclude__c", "3")],
        .queryParams [("b", "2"), ("page", "9"), ("exclude__c", ""), ("d", "5")] ["page"],
        .filter (.ofList [("b", "6")]), .exclude (.ofList [("c", "4")])]
    let others : List Call :=
      [.params [("b", "2"), ("exclude__exclude__a", "1")], .params [("exclude__c", "3")],
        .exclude (.ofList [("c", "4")]), .params [("d", "5"), ("b", "6")]]
    (∀ g, sentTo g others = sentTo g calls) ∧
      others.foldl perform default = calls.foldl perform default ∧
      (calls.foldl perform default).filterClauses = .ofList [("b", "6"), ("d", "5")] ∧
      (calls.foldl perform default).excludeClauses = .ofList [("exclude__a", "1"), ("c", "4")] := by
  intro calls others
  have hfilter : sentTo .filter calls = [("b", "2"), ("d", "5"), ("b", "6")] := rfl
  have hexclude : sentTo .exclude calls = [("exclude__a", "1"), ("c", "3"), ("c", "4")] := rfl
  have hsent : ∀ g, sentTo g others = sentTo g calls := by
    intro g
    cases g <;> rfl
  obtain ⟨hgroup, horder⟩ := perform_collects default calls
  refine ⟨hsent, horder others hsent default, ?_, ?_⟩
  · exact (hgroup .filter).1.trans (by rw [hfilter]; rfl)
  · exact (hgroup .exclude).1.trans (by rw [hexclude]; rfl)

end QueryFilter

end RecordQuery
