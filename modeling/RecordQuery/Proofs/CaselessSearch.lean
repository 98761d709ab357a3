import RecordQuery.Proofs.AbsentValues
import RecordQuery.Proofs.Pieces

/-!
# Searching whatever the case

`contains` looks for a text in the text of a value, and `icontains` for the one in lower case in the
other in lower case.  A text is put into lower case character by character, so that a part of it
becomes a part of the result (`Text.lowerFrom_append`); but the capital sigma has two lower-case
forms, and which one it gets depends on the characters around it (`Text.sigmaForm`), which may lie
outside the part.

A capital sigma is open (`Text.SigmaOpen`) if nothing but characters that stand aside separates it
from an end of the part, on a side that matters for its form.  A part without an open sigma has the
same lower-case text wherever it stands (`Text.lowerBetween_eq`); one with an open sigma is put next
to a letter that changes the form of this sigma, and of others only in the same way, so that one of
the two forms becomes rarer (`Text.exists_not_infix_lowerFrom`).  Therefore whatever contains a text
contains it whatever the case exactly if the text has no open sigma
(`Condition.contains_imp_icontains_iff`).
-/

namespace RecordQuery

namespace Text

variable {before before' after after' s u v : List Char}

/-! ### Characters in their places -/

/-- The lower-case form of a capital sigma after `before`, which is in reverse, and in front of
`after`. -/
def sigmaForm (before after : List Char) : Char :=
  if meetsLetter before && !meetsLetter after then 'ς' else 'σ'

/-- The lower-case text of a character in its place. -/
def lowerAt (before : List Char) (c : Char) (after : List Char) : List Char :=
  if c = 'Σ' then [sigmaForm before after] else if c = 'İ' then ['i', '\u0307'] else [lowerChar c]

/-- The lower-case text of a part of a text, after `before`, which is in reverse, and in front of
`after`. -/
def lowerBetween (before : List Char) : List Char → List Char → List Char
  | [], _ => []
  | c :: rest, after => lowerAt before c (rest ++ after) ++ lowerBetween (c :: before) rest after

theorem lowerFrom_append (before s after : List Char) :
    lowerFrom before (s ++ after) =
      lowerBetween before s after ++ lowerFrom (s.reverse ++ before) after := by
  induction s generalizing before with
  | nil => rfl
  | cons c s ih =>
    have hfirst : lowerFrom before (c :: s ++ after) =
        lowerAt before c (s ++ after) ++ lowerFrom (c :: before) (s ++ after) := rfl
    rw [hfirst, ih, lowerBetween, List.append_assoc, List.reverse_cons, List.append_assoc]
    rfl

theorem lowerFrom_eq_lowerBetween (before s : List Char) :
    lowerFrom before s = lowerBetween before s [] := by
  have happend := lowerFrom_append before s []
  simpa [lowerFrom] using happend

theorem lowerBetween_append (before u v after : List Char) :
    lowerBetween before (u ++ v) after =
      lowerBetween before u (v ++ after) ++ lowerBetween (u.reverse ++ before) v after := by
  induction u generalizing before with
  | nil => rfl
  | cons c u ih =>
    simp only [List.cons_append, lowerBetween, ih, List.append_assoc, List.reverse_cons,
      List.nil_append]

/-! ### The sigma -/

/-- Characters that stand aside are passed over in the search for a letter. -/
theorem meetsLetter_append (s t : List Char) :
    meetsLetter (s ++ t) = if s.all isCaseIgnorable then meetsLetter t else meetsLetter s := by
  induction s with
  | nil => rfl
  | cons c s ih =>
    rw [List.cons_append, meetsLetter, meetsLetter, List.all_cons]
    cases isCaseIgnorable c with
    | true => simpa using ih
    | false => rfl

theorem meetsLetter_eq_false_of_all (h : s.all isCaseIgnorable = true) : meetsLetter s = false := by
  have happend := meetsLetter_append s []
  rwa [List.append_nil, if_pos h] at happend

/-- Whether what stands around `u` and `v` matters for the form of a capital sigma between them. -/
inductive SigmaOpen (u v : List Char) : Prop
  /-- Whether the sigma has a letter in front is not settled, and it has none behind. -/
  | front (hfront : u.all isCaseIgnorable = true) (hbehind : meetsLetter v = false)
  /-- The sigma has a letter in front, and whether it has one behind is not settled. -/
  | behind (hfront : meetsLetter u.reverse = true) (hbehind : v.all isCaseIgnorable = true)

/-- Some capital sigma of the text is open. -/
def HasOpenSigma (s : List Char) : Prop := ∃ u v, s = u ++ 'Σ' :: v ∧ SigmaOpen u v

theorem sigmaForm_eq_of_not_open (h : ¬ SigmaOpen u v) (before after : List Char) :
    sigmaForm (u.reverse ++ before) (v ++ after) = sigmaForm u.reverse v := by
  rw [sigmaForm, sigmaForm, meetsLetter_append, meetsLetter_append, List.all_reverse]
  by_cases hu : u.all isCaseIgnorable = true
  · have hletter : meetsLetter v = true := by
      by_contra hv
      exact h (.front hu (Bool.eq_false_of_not_eq_true hv))
    have hv : ¬ v.all isCaseIgnorable = true := by
      intro hv
      rw [meetsLetter_eq_false_of_all hv] at hletter
      cases hletter
    simp [hv, hletter]
  · by_cases hv : v.all isCaseIgnorable = true
    · have hfront : meetsLetter u.reverse = false :=
        Bool.eq_false_of_not_eq_true fun hfront => h (.behind hfront hv)
      simp [hu, hfront]
    · simp [hu, hv]

/-- **A text without an open sigma has the same lower-case text wherever it stands.** -/
theorem lowerBetween_eq (h : ¬ HasOpenSigma s) (before after : List Char) :
    lowerBetween before s after = lowerFrom [] s := by
  -- the part of the text that has been passed is `u`
  have hrest : ∀ u v, u ++ v = s →
      lowerBetween (u.reverse ++ before) v after = lowerBetween u.reverse v [] := by
    intro u v huv
    induction v generalizing u with
    | nil => rfl
    | cons c v ih =>
      have hchar : lowerAt (u.reverse ++ before) c (v ++ after) = lowerAt u.reverse c (v ++ []) := by
        unfold lowerAt
        split
        · rename_i hc
          have hclosed : ¬ SigmaOpen u v := fun hopen => h ⟨u, v, by rw [← huv, hc], hopen⟩
          rw [sigmaForm_eq_of_not_open hclosed, List.append_nil]
        · rfl
      have hnext := ih (u ++ [c]) (by simpa using huv)
      rw [List.reverse_append] at hnext
      rw [lowerBetween, lowerBetween, hchar]
      exact congrArg _ hnext
  rw [lowerFrom_eq_lowerBetween]
  exact hrest [] s rfl

/-! ### Counting forms -/

theorem count_lowerBetween_le (x : Char)
    (h : ∀ u v, s = u ++ 'Σ' :: v → [sigmaForm (u.reverse ++ before) (v ++ after)].count x ≤
      [sigmaForm (u.reverse ++ before') (v ++ after')].count x) :
    (lowerBetween before s after).count x ≤ (lowerBetween before' s after').count x := by
  induction s generalizing before before' with
  | nil => exact le_rfl
  | cons c s ih =>
    rw [lowerBetween, lowerBetween, List.count_append, List.count_append]
    apply Nat.add_le_add
    · unfold lowerAt
      split
      · rename_i hc
        exact h [] s (by rw [hc]; rfl)
      · exact le_rfl
    · apply ih
      intro u v huv
      have hlater := h (c :: u) v (by rw [huv]; rfl)
      simpa using hlater

/-- If a form becomes rarer at one sigma and at no other more frequent, it becomes rarer in all. -/
theorem count_lowerBetween_lt (x : Char)
    (h : ∀ u v, s = u ++ 'Σ' :: v → [sigmaForm (u.reverse ++ before) (v ++ after)].count x ≤
      [sigmaForm (u.reverse ++ before') (v ++ after')].count x)
    (huv : s = u ++ 'Σ' :: v) (hlt : [sigmaForm (u.reverse ++ before) (v ++ after)].count x <
      [sigmaForm (u.reverse ++ before') (v ++ after')].count x) :
    (lowerBetween before s after).count x < (lowerBetween before' s after').count x := by
  -- the sigma is counted apart from what stands in front of it and behind it
  have hsplit : ∀ before after, (lowerBetween before s after).count x =
      (lowerBetween before u ('Σ' :: v ++ after)).count x +
        ([sigmaForm (u.reverse ++ before) (v ++ after)].count x +
          (lowerBetween ('Σ' :: (u.reverse ++ before)) v after).count x) := by
    intro before after
    rw [huv, lowerBetween_append, List.count_append, lowerBetween, List.count_append]
    rfl
  have hfront : (lowerBetween before u ('Σ' :: v ++ after)).count x ≤
      (lowerBetween before' u ('Σ' :: v ++ after')).count x := by
    apply count_lowerBetween_le
    intro u₁ v₁ hu
    have hwhole := h u₁ (v₁ ++ 'Σ' :: v) (by rw [huv, hu]; simp)
    simpa using hwhole
  have hbehind : (lowerBetween ('Σ' :: (u.reverse ++ before)) v after).count x ≤
      (lowerBetween ('Σ' :: (u.reverse ++ before')) v after').count x := by
    apply count_lowerBetween_le
    intro u₁ v₁ hv
    have hwhole := h (u ++ 'Σ' :: u₁) v₁ (by rw [huv, hv]; simp)
    simpa using hwhole
  rw [hsplit, hsplit]
  omega

theorem not_infix_of_count_lt {x : Char} {s t : List Char} (h : t.count x < s.count x) :
    ¬ s <:+: t :=
  fun hpart => Nat.not_le.mpr h (hpart.sublist.count_le x)

/-- A letter at the end is found if nothing in front of it ends the search. -/
theorem meetsLetter_append_letter (s : List Char) :
    meetsLetter (s ++ ['a']) = (s.all isCaseIgnorable || meetsLetter s) := by
  have hletter : meetsLetter ['a'] = true := by decide
  rw [meetsLetter_append, hletter]
  cases s.all isCaseIgnorable <;> rfl

theorem lowerFrom_letter (before : List Char) : lowerFrom before ['a'] = ['a'] := by
  have hlower : lowerChar 'a' = 'a' := by decide
  simp [lowerFrom, hlower]

/-- Behind a letter, sigmas without a letter in front may become final, and no others change. -/
theorem count_lowerFrom_letter_cons_lt (huv : s = u ++ 'Σ' :: v)
    (hfront : u.all isCaseIgnorable = true) (hbehind : meetsLetter v = false) :
    (lowerFrom [] ('a' :: s)).count 'σ' < (lowerFrom [] s).count 'σ' := by
  have hlower : lowerFrom [] ('a' :: s) = 'a' :: lowerBetween ['a'] s [] := by
    rw [← lowerFrom_eq_lowerBetween]
    exact congrArg (· ++ lowerFrom ['a'] s) (lowerFrom_letter [])
  rw [hlower, lowerFrom_eq_lowerBetween, List.count_cons_of_ne (by decide)]
  apply count_lowerBetween_lt 'σ' _ huv
  · have hnone : meetsLetter u.reverse = false := meetsLetter_eq_false_of_all (by simpa using hfront)
    simp [sigmaForm, meetsLetter_append_letter, List.all_reverse, hfront, hbehind, hnone]
  · intro u v _
    simp only [sigmaForm, meetsLetter_append_letter, List.append_nil]
    cases u.reverse.all isCaseIgnorable <;> cases meetsLetter u.reverse <;>
      cases meetsLetter v <;> decide

/-- In front of a letter, final sigmas may become others, and no others change. -/
theorem count_lowerFrom_append_letter_lt (huv : s = u ++ 'Σ' :: v)
    (hfront : meetsLetter u.reverse = true) (hbehind : v.all isCaseIgnorable = true) :
    (lowerFrom [] (s ++ ['a'])).count 'ς' < (lowerFrom [] s).count 'ς' := by
  rw [lowerFrom_append, lowerFrom_letter, List.count_append, lowerFrom_eq_lowerBetween]
  apply count_lowerBetween_lt 'ς' _ huv
  · have hnone : meetsLetter v = false := meetsLetter_eq_false_of_all hbehind
    simp [sigmaForm, meetsLetter_append_letter, hfront, hbehind, hnone]
  · intro u v _
    simp only [sigmaForm, meetsLetter_append_letter, List.append_nil]
    cases v.all isCaseIgnorable <;> cases meetsLetter u.reverse <;> cases meetsLetter v <;> decide

/-- **A text with an open sigma stands in a text whose lower-case text does not contain its own.** -/
theorem exists_not_infix_lowerFrom (h : HasOpenSigma s) :
    ∃ t, s <:+: t ∧ ¬ lowerFrom [] s <:+: lowerFrom [] t := by
  obtain ⟨u, v, huv, hopen⟩ := h
  cases hopen with
  | front hfront hbehind =>
    exact ⟨'a' :: s, (List.suffix_cons 'a' s).isInfix,
      not_infix_of_count_lt (count_lowerFrom_letter_cons_lt huv hfront hbehind)⟩
  | behind hfront hbehind =>
    exact ⟨s ++ ['a'], (List.prefix_append s ['a']).isInfix,
      not_infix_of_count_lt (count_lowerFrom_append_letter_lt huv hfront hbehind)⟩

example : lowerCase "ΑΣ" = "ας" ∧ lowerCase "ΑΣΑ" = "ασα" ∧ ¬ "ας".toList <:+: "ασα".toList := by
  decide

theorem infix_lowerFrom {t : List Char} (h : ¬ HasOpenSigma s) (hpart : s <:+: t) :
    lowerFrom [] s <:+: lowerFrom [] t := by
  obtain ⟨front, behind, rfl⟩ := hpart
  rw [List.append_assoc, lowerFrom_append, lowerFrom_append, lowerBetween_eq h]
  exact List.infix_append' _ _ _

/-- A text keeps its place in lower case, wherever it stands, exactly if it has no open sigma. -/
theorem forall_contains_lowerCase_iff {part : String} :
    (∀ s, contains s part = true → contains (lowerCase s) (lowerCase part) = true) ↔
      ¬ HasOpenSigma part.toList := by
  simp only [contains, lowerCase, String.toList_ofList, occursIn_iff]
  constructor
  · intro hall hopen
    obtain ⟨t, hpart, hnot⟩ := exists_not_infix_lowerFrom hopen
    have htext := hall (String.ofList t)
    rw [String.toList_ofList] at htext
    exact hnot (htext hpart)
  · intro hclosed s hpart
    exact infix_lowerFrom hclosed hpart

end Text

namespace Condition

/-! ### Conditions -/

/-- **Whatever contains a text contains it whatever the case**, at any depth of lists, exactly if the
text has no open sigma. -/
theorem contains_imp_icontains_iff (rhs : Value) :
    ∃ c c', ofOperator .contains rhs = .ok c ∧ ofOperator .icontains rhs = .ok c' ∧
      ((∀ v, c.evaluate v = true → c'.evaluate v = true) ↔
        ¬ Text.HasOpenSigma rhs.display.toList) := by
  refine ⟨_, _, rfl, rfl, ?_⟩
  rw [← Text.forall_contains_lowerCase_iff]
  constructor
  · intro hall s hcontains
    exact hall (.text s) hcontains
  · intro hall v hcontains
    rw [evaluate_eq_any_atoms, List.any_eq_true] at hcontains ⊢
    obtain ⟨atom, hatom, hholds⟩ := hcontains
    refine ⟨atom, hatom, ?_⟩
    cases atom with
    | null => cases hholds
    | list items => cases items <;> cases hholds
    | _ => exact hall _ hholds

end Condition

end RecordQuery
