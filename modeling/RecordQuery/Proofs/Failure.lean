import Mathlib.Data.List.Forall2

/-!
# Failures of computations

A computation in `Except` is a chain of steps, the first failure of which ends it.  `FailsOnly P x`
says that if `x` fails then with an error of the kind `P`; with nothing for `P` it says that `x`
does not fail.  It is shown for a chain by showing it for each step (`FailsOnly.bind`,
`FailsOnly.mapM`).  A chain over a list gives the results of its steps (`mapM_eq_ok_iff`) and fails
if one of them does (`exists_mapM_eq_error_iff`); the first one that does is found by
`exists_first_cons_iff`.
-/

namespace RecordQuery

variable {ε ε' α β : Type}

/-! ### Chains of steps -/

theorem bind_eq_ok {x : Except ε α} {f : α → Except ε β} {b : β} :
    x >>= f = .ok b ↔ ∃ a, x = .ok a ∧ f a = .ok b := by
  cases x with
  | error e => simp [bind, Except.bind]
  | ok a => simp [bind, Except.bind]

theorem bind_eq_error {x : Except ε α} {f : α → Except ε β} {e : ε} :
    x >>= f = .error e ↔ x = .error e ∨ ∃ a, x = .ok a ∧ f a = .error e := by
  cases x with
  | error e => simp [bind, Except.bind]
  | ok a => simp [bind, Except.bind]

theorem mapError_eq_ok {f : ε → ε'} {x : Except ε α} {a : α} :
    x.mapError f = .ok a ↔ x = .ok a := by
  cases x with
  | error e =>
    show Except.error (f e) = .ok a ↔ _
    simp
  | ok a' =>
    show Except.ok a' = .ok a ↔ _
    simp

theorem mapError_eq_error {f : ε → ε'} {x : Except ε α} {e : ε'} :
    x.mapError f = .error e ↔ ∃ e', x = .error e' ∧ f e' = e := by
  cases x with
  | error e' =>
    show Except.error (f e') = .error e ↔ _
    simp
  | ok a =>
    show Except.ok a = .error e ↔ _
    simp

theorem map_eq_ok {f : α → β} {x : Except ε α} {b : β} :
    x.map f = .ok b ↔ ∃ a, x = .ok a ∧ f a = b := by
  cases x <;> simp [Except.map]

theorem map_eq_error {f : α → β} {x : Except ε α} {e : ε} :
    x.map f = .error e ↔ x = .error e := by
  cases x <;> simp [Except.map]

theorem toOption_eq_some {x : Except ε α} {a : α} : x.toOption = some a ↔ x = .ok a := by
  cases x <;> simp [Except.toOption]

/-! ### Kinds of failure -/

/-- If `x` fails, then with an error of the kind `P`. -/
def FailsOnly (P : ε → Prop) (x : Except ε α) : Prop := ∀ e, x = .error e → P e

theorem failsOnly_ok (P : ε → Prop) (a : α) : FailsOnly P (.ok a : Except ε α) := by
  intro e h
  cases h

theorem FailsOnly.mono {P Q : ε → Prop} {x : Except ε α} (h : FailsOnly P x)
    (hPQ : ∀ e, P e → Q e) : FailsOnly Q x :=
  fun e he => hPQ e (h e he)

theorem FailsOnly.bind {P : ε → Prop} {x : Except ε α} {f : α → Except ε β}
    (hx : FailsOnly P x) (hf : ∀ a, x = .ok a → FailsOnly P (f a)) : FailsOnly P (x >>= f) := by
  intro e h
  rcases bind_eq_error.mp h with h | ⟨a, ha, h⟩
  · exact hx e h
  · exact hf a ha e h

theorem FailsOnly.map {P : ε → Prop} {x : Except ε α} (hx : FailsOnly P x) (f : α → β) :
    FailsOnly P (x.map f) :=
  fun e h => hx e (map_eq_error.mp h)

theorem FailsOnly.mapError {P : ε' → Prop} {x : Except ε α} {f : ε → ε'}
    (hx : FailsOnly (fun e => P (f e)) x) : FailsOnly P (x.mapError f) := by
  intro e h
  obtain ⟨e', he', rfl⟩ := mapError_eq_error.mp h
  exact hx e' he'

theorem FailsOnly.mapM {P : ε → Prop} {f : α → Except ε β} {list : List α}
    (h : ∀ a ∈ list, FailsOnly P (f a)) : FailsOnly P (list.mapM f) := by
  induction list with
  | nil => exact failsOnly_ok P []
  | cons a list ih =>
    rw [List.mapM_cons]
    refine FailsOnly.bind (h a List.mem_cons_self) fun b _ => ?_
    refine FailsOnly.bind (ih fun a' ha' => h a' (List.mem_cons_of_mem a ha')) fun bs _ => ?_
    exact failsOnly_ok P (b :: bs)

theorem exists_mem_of_mapM_eq_error {f : α → Except ε β} {list : List α} {e : ε}
    (h : list.mapM f = .error e) : ∃ a ∈ list, f a = .error e := by
  have hlist : FailsOnly (fun e => ∃ a ∈ list, f a = .error e) (list.mapM f) :=
    FailsOnly.mapM fun a ha e he => ⟨a, ha, he⟩
  exact hlist e h

/-- A chain of steps over a list gives the results of the steps. -/
theorem mapM_eq_ok_iff {f : α → Except ε β} {list : List α} {results : List β} :
    list.mapM f = .ok results ↔ List.Forall₂ (fun a b => f a = .ok b) list results := by
  induction list generalizing results with
  | nil =>
    show Except.ok [] = .ok results ↔ _
    rw [List.forall₂_nil_left_iff, Except.ok.injEq, eq_comm]
  | cons a list ih =>
    rw [List.mapM_cons, bind_eq_ok, List.forall₂_cons_left_iff]
    simp only [bind_eq_ok, ih]
    constructor
    · rintro ⟨b, hb, bs, hbs, hresults⟩
      cases hresults
      exact ⟨b, bs, hb, hbs, rfl⟩
    · rintro ⟨b, bs, hb, hbs, rfl⟩
      exact ⟨b, hb, bs, hbs, rfl⟩

/-- A chain of steps over a list fails exactly if one of them does. -/
theorem exists_mapM_eq_error_iff {f : α → Except ε β} {list : List α} :
    (∃ e, list.mapM f = .error e) ↔ ∃ a ∈ list, ∃ e, f a = .error e := by
  constructor
  · rintro ⟨e, he⟩
    obtain ⟨a, ha, h⟩ := exists_mem_of_mapM_eq_error he
    exact ⟨a, ha, e, h⟩
  · rintro ⟨a, ha, e, h⟩
    induction list with
    | nil => cases ha
    | cons b list ih =>
      rw [List.mapM_cons]
      cases hb : f b with
      | error e' => exact ⟨e', rfl⟩
      | ok c =>
        have ha : a ∈ list := by
          refine (List.mem_cons.mp ha).resolve_left ?_
          rintro rfl
          rw [hb] at h
          cases h
        obtain ⟨e', he'⟩ := ih ha
        exact ⟨e', bind_eq_error.mpr (Or.inr ⟨c, rfl, bind_eq_error.mpr (Or.inl he')⟩)⟩

/-- The first member with `Q` among members with `P` is the head of a list, or is in its tail if the
head has `P`. -/
theorem exists_first_cons_iff {P Q : α → Prop} {a : α} {list : List α} :
    (∃ earlier b later, a :: list = earlier ++ b :: later ∧ (∀ c ∈ earlier, P c) ∧ Q b) ↔
      Q a ∨ P a ∧
        ∃ earlier b later, list = earlier ++ b :: later ∧ (∀ c ∈ earlier, P c) ∧ Q b := by
  constructor
  · rintro ⟨earlier, b, later, happend, hearlier, hb⟩
    cases earlier with
    | nil =>
      obtain ⟨rfl, rfl⟩ := List.cons.inj happend
      exact Or.inl hb
    | cons c earlier =>
      obtain ⟨rfl, rfl⟩ := List.cons.inj happend
      obtain ⟨ha, hrest⟩ := List.forall_mem_cons.mp hearlier
      exact Or.inr ⟨ha, earlier, b, later, rfl, hrest, hb⟩
  · rintro (ha | ⟨ha, earlier, b, later, rfl, hearlier, hb⟩)
    · exact ⟨[], a, list, rfl, by simp, ha⟩
    · exact ⟨a :: earlier, b, later, rfl, List.forall_mem_cons.mpr ⟨ha, hearlier⟩, hb⟩

theorem exists_eq_ok_iff {x : Except ε α} : (∃ a, x = .ok a) ↔ ¬ ∃ e, x = .error e := by
  cases x <;> simp

/-- What cannot fail gives a result. -/
theorem FailsOnly.exists_ok {x : Except ε α} (h : FailsOnly (fun _ => False) x) :
    ∃ a, x = .ok a := by
  cases x with
  | error e => exact (h e rfl).elim
  | ok a => exact ⟨a, rfl⟩

end RecordQuery
