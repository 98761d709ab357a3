import Mathlib.Algebra.Ring.Parity
import Mathlib.Data.List.Chain
import RecordQuery.Text.Split

/-!
# Segments and joined texts

`Text.segments` cuts a text at every double underscore and `Text.join "__"` puts pieces together.
Joining undoes cutting (`intercalate_segmentChars`).  Cutting undoes joining only for the lists that
cutting can give, which `Segmented` describes: no piece has the separator inside, and no piece but
the last ends with an underscore, since the separator would then be found one character earlier
(`segmented_segmentChars`, `segments_join`).

Whether the last piece ends with an underscore can be read off the whole text: it does if the text
ends with an odd number of them (`getLast?_segment_eq_underscore_iff`).
-/

namespace RecordQuery.Text

/-- No two underscores stand next to each other. -/
def Unbroken (cs : List Char) : Prop := cs.IsChain fun a b => ¬ (a = '_' ∧ b = '_')

/-- The lists of pieces that cutting gives. -/
structure Segmented (ps : List (List Char)) : Prop where
  ne_nil : ps ≠ []
  /-- No piece has the separator inside. -/
  unbroken : ∀ p ∈ ps, Unbroken p
  /-- Only the last piece may end with an underscore. -/
  closed : ∀ p ∈ ps.dropLast, p.getLast? ≠ some '_'

/-! ### Cutting what was joined -/

theorem segmentChars_cons {c : Char} {rest : List Char}
    (h : ¬ (c = '_' ∧ rest.head? = some '_')) :
    segmentChars (c :: rest) = consHead c (segmentChars rest) := by
  rw [segmentChars]
  rintro rest' rfl rfl
  exact h ⟨rfl, rfl⟩

theorem segmentChars_ne_nil (cs : List Char) : segmentChars cs ≠ [] := by
  fun_induction segmentChars cs with
  | case1 => simp
  | case2 => simp
  | case3 c rest _ ih =>
    obtain ⟨p, ps, hps⟩ := List.exists_cons_of_ne_nil ih
    simp [hps, consHead]

/-- A text without the separator is one piece. -/
theorem segmentChars_of_unbroken {p : List Char} (h : Unbroken p) : segmentChars p = [p] := by
  induction p with
  | nil => rfl
  | cons c p ih =>
    have hp : Unbroken p := List.IsChain.tail h
    rw [segmentChars_cons, ih hp, consHead]
    rintro ⟨rfl, hhead⟩
    cases p with
    | nil => simp at hhead
    | cons d p =>
      obtain rfl := Option.some.inj hhead
      exact (List.isChain_cons_cons.mp h).1 ⟨rfl, rfl⟩

/-- The separator behind a piece is found where it stands if the piece does not end with an
underscore. -/
theorem segmentChars_append {p : List Char} (h : Unbroken p) (hend : p.getLast? ≠ some '_')
    (rest : List Char) :
    segmentChars (p ++ '_' :: '_' :: rest) = p :: segmentChars rest := by
  induction p with
  | nil => rfl
  | cons c p ih =>
    have hp : Unbroken p := List.IsChain.tail h
    cases p with
    | nil =>
      have hc : c ≠ '_' := by simpa using hend
      rw [List.singleton_append, segmentChars_cons (by simp [hc]), segmentChars, consHead]
    | cons d p =>
      rw [List.cons_append, segmentChars_cons, ih hp (by simpa using hend), consHead]
      rintro ⟨rfl, hhead⟩
      obtain rfl := Option.some.inj hhead
      exact (List.isChain_cons_cons.mp h).1 ⟨rfl, rfl⟩

theorem segmentChars_intercalate {ps : List (List Char)} (h : Segmented ps) :
    segmentChars (List.intercalate ['_', '_'] ps) = ps := by
  induction ps with
  | nil => exact absurd rfl h.ne_nil
  | cons p ps ih =>
    cases ps with
    | nil => rw [List.intercalate_singleton, segmentChars_of_unbroken (h.unbroken p (by simp))]
    | cons q ps =>
      have htail : Segmented (q :: ps) := by
        refine ⟨by simp, fun r hr => h.unbroken r (List.mem_cons_of_mem p hr), fun r hr => ?_⟩
        exact h.closed r (by rw [List.dropLast_cons_cons]; exact List.mem_cons_of_mem p hr)
      rw [List.intercalate_cons_cons, List.append_assoc]
      show segmentChars (p ++ '_' :: '_' :: List.intercalate ['_', '_'] (q :: ps)) = _
      rw [segmentChars_append (h.unbroken p (by simp)) (h.closed p (by simp)), ih htail]

/-! ### Joining what was cut -/

theorem intercalate_segmentChars (cs : List Char) :
    List.intercalate ['_', '_'] (segmentChars cs) = cs := by
  fun_induction segmentChars cs with
  | case1 => rfl
  | case2 rest ih =>
    rw [List.intercalate_cons_of_ne_nil (segmentChars_ne_nil rest), ih]
    rfl
  | case3 c rest _ ih =>
    obtain ⟨p, ps, hps⟩ := List.exists_cons_of_ne_nil (segmentChars_ne_nil rest)
    rw [hps] at ih
    rw [hps, consHead]
    cases ps with
    | nil => simpa using ih
    | cons q ps =>
      rw [List.intercalate_cons_cons] at ih ⊢
      rw [List.cons_append, List.cons_append, ih]

/-- A text begins as its first piece does. -/
theorem head?_of_head?_segment {cs p : List Char} {ps : List (List Char)} {c : Char}
    (hcs : segmentChars cs = p :: ps) (hp : p.head? = some c) : cs.head? = some c := by
  have h := intercalate_segmentChars cs
  rw [hcs] at h
  cases p with
  | nil => simp at hp
  | cons d p =>
    rw [← h]
    cases ps <;> simpa using hp

theorem segmented_segmentChars (cs : List Char) : Segmented (segmentChars cs) := by
  fun_induction segmentChars cs with
  | case1 => exact ⟨by simp, by simp [Unbroken], by simp⟩
  | case2 rest ih =>
    refine ⟨by simp, ?_, ?_⟩
    · rintro p (_ | ⟨_, hp⟩)
      · exact List.isChain_nil
      · exact ih.unbroken p hp
    · rw [List.dropLast_cons_of_ne_nil ih.ne_nil]
      rintro p (_ | ⟨_, hp⟩)
      · simp
      · exact ih.closed p hp
  | case3 c rest hrest ih =>
    obtain ⟨p, ps, hps⟩ := List.exists_cons_of_ne_nil ih.ne_nil
    rw [hps] at ih
    -- where the first piece begins the rest begins, and the separator does not stand there
    have hcp : ∀ d, p.head? = some d → ¬ (c = '_' ∧ d = '_') := by
      rintro d hd ⟨rfl, rfl⟩
      obtain ⟨rest', rfl⟩ := List.head?_eq_some_iff.mp (head?_of_head?_segment hps hd)
      exact hrest rest' rfl rfl
    rw [hps, consHead]
    refine ⟨by simp, ?_, ?_⟩
    · rintro q (_ | ⟨_, hq⟩)
      · cases p with
        | nil => exact List.isChain_singleton c
        | cons d p => exact List.isChain_cons_cons.mpr ⟨hcp d rfl, ih.unbroken _ (by simp)⟩
      · exact ih.unbroken q (List.mem_cons_of_mem p hq)
    · cases ps with
      | nil => simp
      | cons q ps =>
        rw [List.dropLast_cons_cons]
        rintro r (_ | ⟨_, hr⟩)
        · cases p with
          | nil =>
            -- an empty first piece means that the rest begins with the separator
            intro hc
            have hjoin := intercalate_segmentChars rest
            rw [hps, List.intercalate_cons_cons] at hjoin
            exact hrest _ (by simpa using hc) hjoin.symm
          | cons d p => simpa using ih.closed (d :: p) (by simp)
        · exact ih.closed r (by rw [List.dropLast_cons_cons]; exact List.mem_cons_of_mem p hr)

/-! ### The end of a text -/

/-- The number of underscores at the end of a text. -/
def trailingCount (cs : List Char) : ℕ := (cs.reverse.takeWhile (· = '_')).length

theorem trailingCount_le (cs : List Char) : trailingCount cs ≤ cs.length := by
  simpa [trailingCount] using (List.takeWhile_sublist (· = '_') (l := cs.reverse)).length_le

theorem trailingCount_cons (c : Char) (rest : List Char) :
    trailingCount (c :: rest) =
      if trailingCount rest = rest.length ∧ c = '_' then rest.length + 1
      else trailingCount rest := by
  simp only [trailingCount, List.reverse_cons, List.takeWhile_append, List.length_reverse]
  by_cases hall : (rest.reverse.takeWhile (· = '_')).length = rest.length <;>
    by_cases hc : c = '_' <;> simp [hall, hc]

/-- A text of underscores only begins with one. -/
theorem head?_of_trailingCount {cs : List Char} (hne : cs ≠ [])
    (h : trailingCount cs = cs.length) : cs.head? = some '_' := by
  obtain ⟨c, rest, rfl⟩ := List.exists_cons_of_ne_nil hne
  have hle := trailingCount_le rest
  rw [trailingCount_cons] at h
  split at h
  · rename_i hc
    rw [hc.2, List.head?_cons]
  · rw [List.length_cons] at h
    omega

/-- The last piece ends with an underscore exactly if the text ends with an odd number of them:
from the front of the run on, they are taken in twos. -/
theorem getLast?_segment_eq_underscore_iff (cs : List Char) :
    (segmentChars cs).getLast?.bind List.getLast? = some '_' ↔ Odd (trailingCount cs) := by
  fun_induction segmentChars cs with
  | case1 => decide
  | case2 rest ih =>
    -- the separator adds two underscores to the run, or none
    have hle := trailingCount_le rest
    rw [List.getLast?_cons_of_ne_nil (segmentChars_ne_nil rest), ih, trailingCount_cons,
      trailingCount_cons, Nat.odd_iff, Nat.odd_iff]
    simp only [List.length_cons, and_true]
    split <;> split <;> omega
  | case3 c rest hrest ih =>
    obtain ⟨p, ps, hps⟩ := List.exists_cons_of_ne_nil (segmentChars_ne_nil rest)
    by_cases hnil : rest = []
    · subst hnil
      by_cases hc : c = '_'
      · subst hc
        decide
      · simp [segmentChars, consHead, trailingCount, hc]
    · have hcount : trailingCount (c :: rest) = trailingCount rest := by
        rw [trailingCount_cons, if_neg]
        rintro ⟨hall, rfl⟩
        obtain ⟨rest', rfl⟩ := List.head?_eq_some_iff.mp (head?_of_trailingCount hnil hall)
        exact hrest rest' rfl rfl
      rw [hcount, ← ih, hps, consHead]
      cases ps with
      | nil =>
        cases p with
        | nil =>
          have hjoin := intercalate_segmentChars rest
          rw [hps] at hjoin
          exact absurd hjoin.symm hnil
        | cons d p => simp
      | cons q ps => simp

/-! ### Texts -/

theorem toList_join (sep : String) (ss : List String) :
    (join sep ss).toList = List.intercalate sep.toList (ss.map String.toList) := by
  fun_induction join sep ss with
  | case1 => simp
  | case2 s => simp
  | case3 s rest hrest ih =>
    rw [String.toList_append, String.toList_append, ih, List.map_cons,
      List.intercalate_cons_of_ne_nil (by simpa using hrest)]

theorem join_concat (sep s : String) {ss : List String} (h : ss ≠ []) :
    join sep (ss ++ [s]) = join sep ss ++ sep ++ s := by
  fun_induction join sep ss with
  | case1 => exact absurd rfl h
  | case2 t => rfl
  | case3 t rest hrest ih =>
    rw [List.cons_append, join, ih hrest]
    · simp only [String.append_assoc]
    · simp

theorem join_concat_append (sep s t : String) (ss : List String) :
    join sep (ss ++ [s ++ t]) = join sep (ss ++ [s]) ++ t := by
  cases ss with
  | nil => rfl
  | cons u ss =>
    rw [join_concat _ _ (by simp), join_concat _ _ (by simp), ← String.append_assoc]

theorem toList_segments (s : String) :
    (segments s).map String.toList = segmentChars s.toList := by
  rw [segments, List.map_map]
  exact (List.map_congr_left fun cs _ => String.toList_ofList).trans (List.map_id _)

/-- Cutting undoes joining for the lists of pieces that cutting gives. -/
theorem segments_join {ss : List String} (h : Segmented (ss.map String.toList)) :
    segments (join "__" ss) = ss := by
  rw [segments, toList_join]
  show (segmentChars (List.intercalate ['_', '_'] _)).map String.ofList = ss
  rw [segmentChars_intercalate h, List.map_map]
  exact (List.map_congr_left fun s _ => String.ofList_toList).trans (List.map_id _)

end RecordQuery.Text
