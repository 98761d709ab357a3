import RecordQuery.Clauses
import RecordQuery.Proofs.Failure
import RecordQuery.Proofs.MapWrites
import RecordQuery.Proofs.Pieces

/-!
# The grammar of filter expressions

The pieces of an expression are `Accepted` if none has more than one equals sign and the first has
one.  Such pieces spell out clauses (`Spells`): each is opened by a piece `key=value`, and the
pieces without an equals sign that follow belong to its value, commas included.  Pieces that are not
accepted are `Refused` with an error about the first one that is to blame.

`parse_grammar` puts this together: an expression is read exactly if its pieces are accepted, and
what is read has every key once, at the place of its first clause and with the value of its last.
-/

namespace RecordQuery.Clauses

open Text

/-- The number of equals signs in a piece. -/
def signs (piece : String) : ℕ := piece.toList.count '='

/-- No piece has more than one equals sign, and the first has one. -/
structure Accepted (ps : List String) : Prop where
  signs_le : ∀ piece ∈ ps, signs piece ≤ 1
  head : ∀ piece ∈ ps.head?, signs piece = 1

/-- The error is about the first piece that keeps the pieces from being accepted. -/
inductive Refused : List String → ExpressionError → Prop
  | stray {piece : String} (later : List String) (h : signs piece = 0) :
    Refused (piece :: later) (.strayFragment piece)
  | repeated {earlier : List String} {piece : String} (later : List String)
    (hearlier : Accepted earlier) (h : 2 ≤ signs piece) :
    Refused (earlier ++ piece :: later) (.repeatedEquals piece)

/-- The clauses that pieces spell out.  A clause is opened by a piece `key=value`; the pieces
without an equals sign that follow are joined to the value by commas. -/
inductive Spells : List String → List (String × String) → Prop
  | nil : Spells [] []
  | clause {key value : String} {continuations rest : List String}
    {clauses : List (String × String)} (hkey : '=' ∉ key.toList) (hvalue : '=' ∉ value.toList)
    (hcontinuations : ∀ piece ∈ continuations, '=' ∉ piece.toList) (hrest : Spells rest clauses) :
    Spells ((key ++ "=" ++ value) :: (continuations ++ rest))
      ((key, join "," (value :: continuations)) :: clauses)

/-! ### One piece -/

theorem read_of_not_mem {piece : String} (h : '=' ∉ piece.toList) :
    Piece.read piece = .ok (.continuation piece) := by
  rw [Piece.read, splitOn_of_not_mem h]

theorem read_opening {key value : String} (hkey : '=' ∉ key.toList)
    (hvalue : '=' ∉ value.toList) :
    Piece.read (key ++ "=" ++ value) = .ok (.opening key value) := by
  have hcut : splitOn '=' (key ++ "=" ++ value) = [key, value] :=
    splitOn_join (List.cons_ne_nil key [value]) (by simp [hkey, hvalue])
  rw [Piece.read, hcut]

theorem read_of_two_le_signs {piece : String} (h : 2 ≤ signs piece) :
    Piece.read piece = .error (.repeatedEquals piece) := by
  have hlength : (splitOn '=' piece).length = signs piece + 1 := length_splitOn '=' piece
  rw [Piece.read]
  split
  · rename_i fragment hcut
    rw [hcut, List.length_singleton] at hlength
    omega
  · rename_i key value hcut
    rw [hcut, List.length_cons, List.length_singleton] at hlength
    omega
  · rfl

/-- A piece with one equals sign at most is a continuation or opens a clause. -/
theorem continuation_or_opening {piece : String} (h : signs piece ≤ 1) :
    '=' ∉ piece.toList ∨ ∃ key value : String,
      piece = key ++ "=" ++ value ∧ '=' ∉ key.toList ∧ '=' ∉ value.toList := by
  rcases Nat.le_one_iff_eq_zero_or_eq_one.mp h with h | h
  · exact Or.inl (List.count_eq_zero.mp h)
  · right
    have hlength : (splitOn '=' piece).length = 2 := by rw [length_splitOn, ← signs, h]
    obtain ⟨key, value, hcut⟩ := List.length_eq_two.mp hlength
    obtain ⟨-, hclosed, hjoined⟩ := splitOn_eq_iff.mp hcut
    exact ⟨key, value, hjoined.symm, hclosed key (by simp), hclosed value (by simp)⟩

/-! ### Accepted pieces -/

/-- Pieces with one equals sign at most are continuations of what precedes them, and then spell out
clauses. -/
theorem exists_continuations {ps : List String} (h : ∀ piece ∈ ps, signs piece ≤ 1) :
    ∃ continuations rest clauses, ps = continuations ++ rest ∧
      (∀ piece ∈ continuations, '=' ∉ piece.toList) ∧ Spells rest clauses := by
  induction ps with
  | nil => exact ⟨[], [], [], rfl, by simp, .nil⟩
  | cons piece ps ih =>
    obtain ⟨hpiece, hps⟩ := List.forall_mem_cons.mp h
    obtain ⟨continuations, rest, clauses, rfl, hcontinuations, hrest⟩ := ih hps
    -- an opening takes the continuations behind it, and so leaves none in front
    rcases continuation_or_opening hpiece with hpiece | ⟨key, value, rfl, hkey, hvalue⟩
    · exact ⟨piece :: continuations, rest, clauses, rfl,
        List.forall_mem_cons.mpr ⟨hpiece, hcontinuations⟩, hrest⟩
    · exact ⟨[], _, _, rfl, by simp, .clause hkey hvalue hcontinuations hrest⟩

theorem Accepted.exists_opening {piece : String} {ps : List String} (h : Accepted (piece :: ps)) :
    ∃ key value : String, piece = key ++ "=" ++ value ∧ '=' ∉ key.toList ∧ '=' ∉ value.toList := by
  have hone : signs piece = 1 := h.head piece rfl
  refine (continuation_or_opening hone.le).resolve_left fun hnone => ?_
  rw [signs, List.count_eq_zero.mpr hnone] at hone
  cases hone

theorem Accepted.exists_spells {ps : List String} (h : Accepted ps) :
    ∃ clauses, Spells ps clauses := by
  cases ps with
  | nil => exact ⟨[], .nil⟩
  | cons piece ps =>
    obtain ⟨-, hps⟩ := List.forall_mem_cons.mp h.signs_le
    obtain ⟨continuations, rest, clauses, rfl, hcontinuations, hrest⟩ := exists_continuations hps
    obtain ⟨key, value, rfl, hkey, hvalue⟩ := h.exists_opening
    exact ⟨_, .clause hkey hvalue hcontinuations hrest⟩

theorem accepted_or_stray {ps : List String} (h : ∀ piece ∈ ps, signs piece ≤ 1) :
    Accepted ps ∨ ∃ piece later, ps = piece :: later ∧ signs piece = 0 := by
  cases ps with
  | nil => exact Or.inl ⟨h, by simp⟩
  | cons piece later =>
    rcases Nat.le_one_iff_eq_zero_or_eq_one.mp (h piece List.mem_cons_self) with hzero | hone
    · exact Or.inr ⟨piece, later, rfl, hzero⟩
    · refine Or.inl ⟨h, fun first hfirst => ?_⟩
      rwa [← Option.some.inj hfirst]

theorem accepted_or_refused (ps : List String) : Accepted ps ∨ ∃ e, Refused ps e := by
  cases hfind : ps.find? (2 ≤ signs ·) with
  | none =>
    have hps : ∀ piece ∈ ps, signs piece ≤ 1 := by
      intro piece hpiece
      have hfew := List.find?_eq_none.mp hfind piece hpiece
      rw [decide_eq_true_eq] at hfew
      omega
    rcases accepted_or_stray hps with haccepted | ⟨piece, later, rfl, hstray⟩
    · exact Or.inl haccepted
    · exact Or.inr ⟨_, .stray later hstray⟩
  | some piece =>
    right
    obtain ⟨hmany, earlier, later, rfl, hearlier⟩ := List.find?_eq_some_iff_append.mp hfind
    have hfew : ∀ piece ∈ earlier, signs piece ≤ 1 := by
      intro piece hpiece
      have hnot := hearlier piece hpiece
      simp only [Bool.not_eq_true', decide_eq_false_iff_not] at hnot
      omega
    -- a stray piece at the front is to blame before the one that was found
    rcases accepted_or_stray hfew with haccepted | ⟨first, others, rfl, hstray⟩
    · exact ⟨_, .repeated later haccepted (of_decide_eq_true hmany)⟩
    · exact ⟨_, .stray _ hstray⟩

/-! ### Reading pieces -/

/-- Continuations go to the clause that is open. -/
theorem readFrom_append {continuations : List String}
    (h : ∀ piece ∈ continuations, '=' ∉ piece.toList) (key value : String) (rest : List String) :
    readFrom key value (continuations ++ rest) =
      readFrom key (join "," (value :: continuations)) rest := by
  induction continuations generalizing value with
  | nil => rfl
  | cons piece continuations ih =>
    obtain ⟨hpiece, hcontinuations⟩ := List.forall_mem_cons.mp h
    rw [List.cons_append, readFrom, read_of_not_mem hpiece]
    dsimp only
    rw [ih hcontinuations, join_joined_cons]

theorem readPieces_of_spells {ps : List String} {clauses : List (String × String)}
    (h : Spells ps clauses) : readPieces ps = .ok clauses := by
  induction h with
  | nil => rfl
  | @clause key value continuations rest clauses hkey hvalue hcontinuations hrest ih =>
    rw [readPieces, read_opening hkey hvalue]
    dsimp only
    rw [readFrom_append hcontinuations]
    -- the clause ends where the next one is opened, or at the end
    cases hrest with
    | nil => rfl
    | clause hkey' hvalue' hcontinuations' hrest' =>
      rw [readPieces, read_opening hkey' hvalue'] at ih
      dsimp only at ih
      rw [readFrom, read_opening hkey' hvalue']
      dsimp only
      rw [ih]
      rfl

/-- Reading ends at the first piece with too many equals signs. -/
theorem readFrom_eq_error {earlier : List String} (h : ∀ piece ∈ earlier, signs piece ≤ 1)
    {piece : String} (hpiece : 2 ≤ signs piece) (later : List String) (key value : String) :
    readFrom key value (earlier ++ piece :: later) = .error (.repeatedEquals piece) := by
  induction earlier generalizing key value with
  | nil => rw [List.nil_append, readFrom, read_of_two_le_signs hpiece]
  | cons first earlier ih =>
    obtain ⟨hfirst, hearlier⟩ := List.forall_mem_cons.mp h
    rw [List.cons_append, readFrom]
    rcases continuation_or_opening hfirst with hfirst | ⟨key', value', rfl, hkey, hvalue⟩
    · rw [read_of_not_mem hfirst]
      exact ih hearlier key _
    · rw [read_opening hkey hvalue]
      dsimp only
      rw [ih hearlier key' value']
      rfl

theorem readPieces_of_refused {ps : List String} {e : ExpressionError} (h : Refused ps e) :
    readPieces ps = .error e := by
  cases h with
  | stray later h => rw [readPieces, read_of_not_mem (List.count_eq_zero.mp h)]
  | @repeated earlier piece later hearlier h =>
    cases earlier with
    | nil => rw [List.nil_append, readPieces, read_of_two_le_signs h]
    | cons first earlier =>
      obtain ⟨-, hothers⟩ := List.forall_mem_cons.mp hearlier.signs_le
      obtain ⟨key, value, rfl, hkey, hvalue⟩ := hearlier.exists_opening
      rw [List.cons_append, readPieces, read_opening hkey hvalue]
      exact readFrom_eq_error hothers h later key value

theorem readPieces_eq_ok_iff {ps : List String} {clauses : List (String × String)} :
    readPieces ps = .ok clauses ↔ Spells ps clauses := by
  refine ⟨fun h => ?_, readPieces_of_spells⟩
  rcases accepted_or_refused ps with haccepted | ⟨e, hrefused⟩
  · obtain ⟨clauses', hspells⟩ := haccepted.exists_spells
    rw [readPieces_of_spells hspells] at h
    cases h
    exact hspells
  · rw [readPieces_of_refused hrefused] at h
    cases h

theorem readPieces_eq_error_iff {ps : List String} {e : ExpressionError} :
    readPieces ps = .error e ↔ Refused ps e := by
  refine ⟨fun h => ?_, readPieces_of_refused⟩
  rcases accepted_or_refused ps with haccepted | ⟨e', hrefused⟩
  · obtain ⟨clauses, hspells⟩ := haccepted.exists_spells
    rw [readPieces_of_spells hspells] at h
    cases h
  · rw [readPieces_of_refused hrefused] at h
    cases h
    exact hrefused

/-! ### Reading expressions -/

theorem parse_eq_ok_iff {raw : String} {clauses : Clauses} :
    parse raw = .ok clauses ↔
      ∃ written, Spells (pieces raw) written ∧ clauses = OrderedMap.ofList written := by
  rw [parse, map_eq_ok]
  exact exists_congr fun written => and_congr readPieces_eq_ok_iff eq_comm

theorem parse_eq_error_iff {raw : String} {e : ExpressionError} :
    parse raw = .error e ↔ Refused (pieces raw) e := by
  rw [parse, map_eq_error, readPieces_eq_error_iff]

theorem exists_parse_eq_ok_iff {raw : String} :
    (∃ clauses, parse raw = .ok clauses) ↔ Accepted (pieces raw) := by
  constructor
  · rintro ⟨clauses, h⟩
    refine (accepted_or_refused (pieces raw)).resolve_right ?_
    rintro ⟨e, hrefused⟩
    rw [parse_eq_error_iff.mpr hrefused] at h
    cases h
  · intro h
    obtain ⟨written, hwritten⟩ := h.exists_spells
    exact ⟨_, parse_eq_ok_iff.mpr ⟨written, hwritten, rfl⟩⟩

/-- **What an expression means.**  Its pieces are what stands between commas, without the empty
ones.  It is read exactly if the pieces are accepted, and otherwise refused for the first piece that
is to blame.  The clauses that are read are those that the pieces spell out, each key at the place
of its first clause and with the value of its last one. -/
theorem parse_grammar (raw : String) :
    (∃ cut, IsCut ',' raw cut ∧ pieces raw = cut.filter (· ≠ "")) ∧
      ((∃ clauses, parse raw = .ok clauses) ↔ Accepted (pieces raw)) ∧
      (∀ e, parse raw = .error e ↔ Refused (pieces raw) e) ∧
      ∀ clauses, parse raw = .ok clauses ↔ ∃ written, Spells (pieces raw) written ∧
        clauses.keys = (written.map Prod.fst).eraseDups ∧
        ∀ key, clauses.get? key = written.reverse.lookup key := by
  refine ⟨⟨_, isCut_splitOn ',' raw, rfl⟩, exists_parse_eq_ok_iff, fun e => parse_eq_error_iff,
    fun clauses => ?_⟩
  simp only [parse_eq_ok_iff, OrderedMap.eq_ofList_iff]

example : (parse ",a=1,,2,b=,a=3,4").map OrderedMap.entries = .ok [("a", "3,4"), ("b", "")] :=
  rfl

end RecordQuery.Clauses
