import Mathlib.Data.List.Basic
import RecordQuery.Ordering

/-!
# Comparisons that are total preorders

A comparison need not order everything it is asked of: integers beside floating-point numbers, for
instance, do not compare transitively.  `TotalPreorderOn compare P` says that it orders the elements
of `P`.  Comparing by a key, the other way round, and by one comparison after the other keep that
(`TotalPreorderOn.comap`, `TotalPreorderOn.directed`, `TotalPreorderOn.lexicographic`).

Being a total preorder is a matter of three elements at a time: their comparisons have to fit together
(`Coherent`, `TotalPreorderOn.of_coherent`).  Comparing by one comparison after the other keeps that too
(`Coherent.andThen`).

`lexicographic_eq_lt_iff` and `lexicographic_eq_eq_iff` say what comparing by one comparison after
the other comes to: the first that tells two elements apart decides.
-/

namespace RecordQuery

variable {α β : Type}

/-- Among the elements of `P` the comparison is a total preorder. -/
def TotalPreorderOn (compare : α → α → Ordering) (P : α → Prop) : Prop :=
  Std.TransCmp fun a b : {x // P x} => compare a.1 b.1

namespace TotalPreorderOn

variable {compare compare' : α → α → Ordering} {P Q : α → Prop}

theorem swap (h : TotalPreorderOn compare P) {a b : α} (ha : P a) (hb : P b) :
    compare a b = (compare b a).swap :=
  h.toOrientedCmp.eq_swap (a := ⟨a, ha⟩) (b := ⟨b, hb⟩)

theorem trans (h : TotalPreorderOn compare P) {a b c : α} (ha : P a) (hb : P b) (hc : P c)
    (hab : (compare a b).isLE) (hbc : (compare b c).isLE) : (compare a c).isLE :=
  h.isLE_trans (a := ⟨a, ha⟩) (b := ⟨b, hb⟩) (c := ⟨c, hc⟩) hab hbc

/-- Comparing by a key. -/
theorem comap {compare : β → β → Ordering} {P : β → Prop} (h : TotalPreorderOn compare P)
    {key : α → β} (hkey : ∀ a, Q a → P (key a)) :
    TotalPreorderOn (fun a b => compare (key a) (key b)) Q :=
  { eq_swap := fun {a b} => h.swap (hkey a.1 a.2) (hkey b.1 b.2)
    isLE_trans := fun {a b c} => h.trans (hkey a.1 a.2) (hkey b.1 b.2) (hkey c.1 c.2) }

theorem mono (h : TotalPreorderOn compare P) (hPQ : ∀ a, Q a → P a) : TotalPreorderOn compare Q :=
  h.comap hPQ

/-- Only the comparisons among the elements matter. -/
theorem congr (h : TotalPreorderOn compare P)
    (heq : ∀ a b, P a → P b → compare a b = compare' a b) : TotalPreorderOn compare' P := by
  have hfun : (fun a b : {x // P x} => compare' a.1 b.1) = fun a b => compare a.1 b.1 := by
    funext a b
    exact (heq a.1 b.1 a.2 b.2).symm
  unfold TotalPreorderOn
  rw [hfun]
  exact h

/-- Comparing the other way round, if asked for. -/
theorem directed (h : TotalPreorderOn compare P) (descending : Bool) :
    TotalPreorderOn (directed descending compare) P := by
  cases descending with
  | false => exact h
  | true =>
    have hcmp : Std.TransCmp fun a b : {x // P x} => compare a.1 b.1 := h
    -- what is at most something the other way round is at least it
    have htrans : ∀ a b c : {x // P x}, (compare a.1 b.1).swap.isLE → (compare b.1 c.1).swap.isLE →
        (compare a.1 c.1).swap.isLE := by
      intro a b c
      rw [Ordering.isLE_swap, Ordering.isLE_swap, Ordering.isLE_swap]
      exact hcmp.isGE_trans
    exact { eq_swap := fun {a b} => congrArg Ordering.swap (h.swap a.2 b.2)
            isLE_trans := fun {a b c} => htrans a b c }

/-- Comparing by a second comparison what the first leaves tied. -/
theorem andThen (h : TotalPreorderOn compare P) (h' : TotalPreorderOn compare' P) :
    TotalPreorderOn (fun a b => (compare a b).then (compare' a b)) P := by
  have hcmp : Std.TransCmp fun a b : {x // P x} => compare a.1 b.1 := h
  have hcmp' : Std.TransCmp fun a b : {x // P x} => compare' a.1 b.1 := h'
  exact inferInstanceAs (Std.TransCmp (compareLex (fun a b : {x // P x} => compare a.1 b.1)
    fun a b => compare' a.1 b.1))

/-- Comparing by one comparison after the other. -/
theorem lexicographic {compares : List (α → α → Ordering)}
    (h : ∀ compare ∈ compares, TotalPreorderOn compare P) :
    TotalPreorderOn (lexicographic compares) P := by
  induction compares with
  | nil => exact { eq_swap := rfl, isLE_trans := fun _ _ => rfl }
  | cons compare compares ih =>
    exact (h compare List.mem_cons_self).andThen
      (ih fun compare' hmem => h compare' (List.mem_cons_of_mem compare hmem))

end TotalPreorderOn

/-! ### Three elements -/

/-- The comparisons of `a` with `b`, of `b` with `c` and of `a` with `c` are those of some total
preorder: what ties compares alike with the third, and two steps in one direction lead in that
direction. -/
structure Coherent (ab bc ac : Ordering) : Prop where
  of_left_eq : ab = .eq → ac = bc
  of_right_eq : bc = .eq → ac = ab
  of_eq : ab = bc → ac = ab

theorem coherent_of_transCmp (compare : α → α → Ordering) [Std.TransCmp compare] (a b c : α) :
    Coherent (compare a b) (compare b c) (compare a c) := by
  refine ⟨Std.TransCmp.congr_left, fun h => (Std.TransCmp.congr_right h).symm, fun h => ?_⟩
  cases hab : compare a b with
  | lt => exact Std.TransCmp.lt_trans hab (h ▸ hab)
  | eq => exact Std.TransCmp.eq_trans hab (h ▸ hab)
  | gt => exact Std.TransCmp.gt_trans hab (h ▸ hab)

namespace Coherent

variable {ab bc ac ab' bc' ac' : Ordering}

/-- Comparing by a second comparison what the first leaves tied.  It has to be coherent only where the
first tells none of the three apart. -/
theorem andThen (h : Coherent ab bc ac) (h' : ab = .eq → bc = .eq → Coherent ab' bc' ac') :
    Coherent (ab.then ab') (bc.then bc') (ac.then ac') := by
  cases ab with
  | eq =>
    obtain rfl : ac = bc := h.of_left_eq rfl
    cases ac with
    | eq => exact h' rfl rfl
    | lt | gt => exact ⟨fun _ => rfl, nofun, fun heq => heq.symm⟩
  | lt =>
    cases bc with
    | eq =>
      obtain rfl : ac = .lt := h.of_right_eq rfl
      exact ⟨nofun, fun _ => rfl, fun _ => rfl⟩
    | lt =>
      obtain rfl : ac = .lt := h.of_eq rfl
      exact ⟨nofun, nofun, fun _ => rfl⟩
    | gt => exact ⟨nofun, nofun, nofun⟩
  | gt =>
    cases bc with
    | eq =>
      obtain rfl : ac = .gt := h.of_right_eq rfl
      exact ⟨nofun, fun _ => rfl, fun _ => rfl⟩
    | lt => exact ⟨nofun, nofun, nofun⟩
    | gt =>
      obtain rfl : ac = .gt := h.of_eq rfl
      exact ⟨nofun, nofun, fun _ => rfl⟩

theorem isLE_trans (h : Coherent ab bc ac) (hab : ab.isLE) (hbc : bc.isLE) : ac.isLE := by
  cases ab with
  | gt => cases hab
  | eq => rwa [h.of_left_eq rfl]
  | lt =>
    cases bc with
    | gt => cases hbc
    | eq => rwa [h.of_right_eq rfl]
    | lt => rwa [h.of_eq rfl]

end Coherent

/-- A comparison whose comparisons of three elements always fit together is a total preorder. -/
theorem TotalPreorderOn.of_coherent {compare : α → α → Ordering} {P : α → Prop}
    (hswap : ∀ a b, P a → P b → compare a b = (compare b a).swap)
    (h : ∀ a b c, P a → P b → P c → Coherent (compare a b) (compare b c) (compare a c)) :
    TotalPreorderOn compare P :=
  { eq_swap := fun {a b} => hswap a.1 b.1 a.2 b.2
    isLE_trans := fun {a b c} => (h a.1 b.1 c.1 a.2 b.2 c.2).isLE_trans }

/-! ### One comparison after the other -/

theorem lexicographic_append (earlier later : List (α → α → Ordering)) (a b : α) :
    lexicographic (earlier ++ later) a b =
      (lexicographic earlier a b).then (lexicographic later a b) := by
  induction earlier with
  | nil => rfl
  | cons compare earlier ih =>
    rw [List.cons_append, lexicographic, lexicographic, ih, Ordering.then_assoc]

theorem lexicographic_eq_eq_iff {compares : List (α → α → Ordering)} {a b : α} :
    lexicographic compares a b = .eq ↔ ∀ compare ∈ compares, compare a b = .eq := by
  induction compares with
  | nil => simp [lexicographic]
  | cons compare compares ih => rw [lexicographic, Ordering.then_eq_eq, ih, List.forall_mem_cons]

/-- The first comparison that tells two elements apart decides. -/
theorem lexicographic_eq_lt_iff {compares : List (α → α → Ordering)} {a b : α} :
    lexicographic compares a b = .lt ↔
      ∃ earlier compare later, compares = earlier ++ compare :: later ∧
        (∀ compare' ∈ earlier, compare' a b = .eq) ∧ compare a b = .lt := by
  induction compares with
  | nil => simp [lexicographic]
  | cons compare compares ih =>
    rw [lexicographic, Ordering.then_eq_lt, ih]
    constructor
    · rintro (hlt | ⟨heq, earlier, compare', later, rfl, hearlier, hlt⟩)
      · exact ⟨[], compare, compares, rfl, by simp, hlt⟩
      · exact ⟨compare :: earlier, compare', later, rfl,
          List.forall_mem_cons.mpr ⟨heq, hearlier⟩, hlt⟩
    · rintro ⟨earlier, compare', later, happend, hearlier, hlt⟩
      cases earlier with
      | nil =>
        obtain ⟨rfl, -⟩ := List.cons.inj happend
        exact Or.inl hlt
      | cons first earlier =>
        obtain ⟨rfl, rfl⟩ := List.cons.inj happend
        obtain ⟨heq, hearlier⟩ := List.forall_mem_cons.mp hearlier
        exact Or.inr ⟨heq, earlier, compare', later, rfl, hearlier, hlt⟩

end RecordQuery
