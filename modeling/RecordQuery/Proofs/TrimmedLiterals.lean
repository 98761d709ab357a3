import RecordQuery.Proofs.ZonedLiterals

/-!
# Blanks around literals

The values of a list are read without the blanks around them.  No number has blanks, so that makes no
difference to one that can be read (`Literal.trim_of_integer?`, `Literal.trim_of_float?`).  A date or
time may have some: in front, where every scanner passes over them (`DateLiteral.readChars?_trimStart`),
and behind the hours of an offset, where minutes may be missing
(`Calendar.offset?_of_append_blanks`).  Read without them it is the same (`DateTime.read?_trim`).

Elsewhere blanks at the end are left over by every scanner, as a text without them would end there
(`Calendar.localDateTime?_append_blanks`).
-/

namespace RecordQuery

namespace Text

/-! ### Trimming -/

theorem trimStart_trimStart (s : List Char) : trimStart (trimStart s) = trimStart s :=
  List.dropWhile_idempotent _ s

/-- What is trimmed off at the end is blank. -/
theorem exists_eq_trimEnd_append (s : List Char) :
    ∃ z, s = trimEnd s ++ z ∧ ∀ c ∈ z, isBlank c = true := by
  refine ⟨(s.reverse.takeWhile isBlank).reverse, ?_, ?_⟩
  · have hparts := List.takeWhile_append_dropWhile (p := isBlank) (l := s.reverse)
    rw [trimEnd, ← List.reverse_append, hparts, List.reverse_reverse]
  · intro c hc
    exact List.mem_takeWhile_imp (List.mem_reverse.mp hc)

theorem dropWhile_of_forall {p : Char → Bool} {s : List Char} (h : ∀ c ∈ s, p c = false) :
    s.dropWhile p = s := by
  cases s with
  | nil => rfl
  | cons c s => rw [List.dropWhile_cons_of_neg (by simp [h c List.mem_cons_self])]

/-- A text without blanks is left as it is. -/
theorem trim_of_forall {s : String} (h : ∀ c ∈ s.toList, isBlank c = false) : trim s = s := by
  have hreverse : ∀ c ∈ s.toList.reverse, isBlank c = false :=
    fun c hc => h c (List.mem_reverse.mp hc)
  rw [trim, trimStart, dropWhile_of_forall h, trimEnd, dropWhile_of_forall hreverse,
    List.reverse_reverse, String.ofList_toList]

/-- Trimming takes away nothing but blanks. -/
theorem mem_trim {s : String} {c : Char} (hc : isBlank c = false) (hmem : c ∈ s.toList) :
    c ∈ (trim s).toList := by
  rw [trim, String.toList_ofList]
  have hstart : c ∈ trimStart s.toList := by
    rw [← List.takeWhile_append_dropWhile (p := isBlank) (l := s.toList), List.mem_append] at hmem
    refine hmem.resolve_left fun htaken => ?_
    rw [List.mem_takeWhile_imp htaken] at hc
    cases hc
  obtain ⟨z, hz, hblanks⟩ := exists_eq_trimEnd_append (trimStart s.toList)
  rw [hz, List.mem_append] at hstart
  refine hstart.resolve_right fun hend => ?_
  rw [hblanks c hend] at hc
  cases hc

theorem trimStart_append {s z : List Char} (hz : ∀ c ∈ z, isBlank c = true) :
    trimStart (s ++ z) = if trimStart s = [] then [] else trimStart s ++ z := by
  split
  · rename_i hs
    have hall : (s.dropWhile isBlank).isEmpty = true := by rw [← trimStart, hs]; rfl
    rw [trimStart, List.dropWhile_append, if_pos hall, List.dropWhile_eq_nil_iff.mpr hz]
  · rename_i hs
    exact Calendar.trimStart_before hs z

end Text

/-! ### Numbers -/

namespace Literal

open Text

/-- The characters of numbers. -/
def IsNumeric (c : Char) : Prop := c.isDigit = true ∨ c = '-' ∨ c = '.'

instance (c : Char) : Decidable (IsNumeric c) :=
  inferInstanceAs (Decidable (c.isDigit = true ∨ c = '-' ∨ c = '.'))

theorem isBlank_of_isNumeric {c : Char} (h : IsNumeric c) : isBlank c = false := by
  rcases h with h | rfl | rfl
  · exact isBlank_of_isDigit h
  · decide
  · decide

theorem isNumeric_of_sign {s rest : List Char} {negative : Bool} (h : sign s = (negative, rest))
    (hrest : ∀ c ∈ rest, IsNumeric c) : ∀ c ∈ s, IsNumeric c := by
  rw [eq_append_of_sign h]
  cases negative with
  | false => exact hrest
  | true => exact List.forall_mem_cons.mpr ⟨Or.inr (Or.inl rfl), hrest⟩

theorem isNumeric_of_digits {s rest : List Char} {ds : List Nat} (h : digits s = (ds, rest))
    (hrest : ∀ c ∈ rest, IsNumeric c) : ∀ c ∈ s, IsNumeric c := by
  obtain ⟨cs, rfl, hcs, -, -⟩ := eq_append_of_digits h
  exact List.forall_mem_append.mpr ⟨fun c hc => Or.inl (hcs c hc), hrest⟩

theorem isNumeric_of_integer? {s : String} {i : Int64} (h : integer? s = some i) :
    ∀ c ∈ s.toList, IsNumeric c := by
  unfold integer? at h
  split at h
  rename_i negative rest hsign
  split at h
  · rename_i d ds hdigits
    exact isNumeric_of_sign hsign (isNumeric_of_digits hdigits nofun)
  · cases h

theorem isNumeric_of_float? {s : String} {x : Binary64} (h : float? s = some x) :
    ∀ c ∈ s.toList, IsNumeric c := by
  unfold float? at h
  split at h
  rename_i negative rest hsign
  refine isNumeric_of_sign hsign ?_
  split at h
  · cases h
  · rename_i whole _ hdigits
    exact isNumeric_of_digits hdigits nofun
  · rename_i whole more _ hdigits
    refine isNumeric_of_digits hdigits (List.forall_mem_cons.mpr ⟨Or.inr (Or.inr rfl), ?_⟩)
    split at h
    · rename_i fraction hfraction
      exact isNumeric_of_digits hfraction nofun
    · cases h
  · cases h

theorem trim_of_integer? {s : String} {i : Int64} (h : integer? s = some i) : trim s = s :=
  trim_of_forall fun c hc => isBlank_of_isNumeric (isNumeric_of_integer? h c hc)

theorem trim_of_float? {s : String} {x : Binary64} (h : float? s = some x) : trim s = s :=
  trim_of_forall fun c hc => isBlank_of_isNumeric (isNumeric_of_float? h c hc)

end Literal

namespace Calendar

open Text

variable {s z : List Char}

/-! ### Blanks behind numbers and marks -/

theorem endsTime_of_blanks (hz : ∀ c ∈ z, isBlank c = true) : EndsTime z := by
  intro c hc
  have hblank := hz c (List.mem_of_mem_head? hc)
  refine ⟨Bool.eq_false_iff.mpr fun hdigit => ?_, ?_⟩
  · rw [isBlank_of_isDigit hdigit] at hblank
    cases hblank
  · rintro rfl
    cases hblank

/-- No number is read exactly where no digit stands. -/
theorem number?_eq_none_iff {limit : Nat} : number? limit s = none ↔ EndsNumber s := by
  cases s with
  | nil => exact iff_of_true rfl endsNumber_nil
  | cons c s =>
    rw [number?, Option.map_eq_none_iff]
    cases hc : c.isDigit with
    | true =>
      have hdigit : ¬ EndsNumber (c :: s) := fun hend => by simp [hend c rfl] at hc
      simp [digit?_of_isDigit hc, hdigit]
    | false => exact iff_of_true (digit?_of_isDigit_eq_false hc) (endsNumber_cons hc s)

theorem number?_append_blanks (hz : ∀ c ∈ z, isBlank c = true) (limit : Nat) (s : List Char) :
    number? limit (s ++ z) = (number? limit s).map fun (n, rest) => (n, rest ++ z) := by
  cases h : number? limit s with
  | some found => exact number?_before (endsTime_of_blanks hz).endsNumber h
  | none =>
    have hend := (number?_eq_none_iff.mp h).append (endsTime_of_blanks hz).endsNumber
    exact number?_eq_none_iff.mpr hend

theorem twoDigits?_append_blanks (hz : ∀ c ∈ z, isBlank c = true) (s : List Char) :
    twoDigits? (s ++ z) = (twoDigits? s).map fun (n, rest) => (n, rest ++ z) := by
  rw [twoDigits?, twoDigits?, trimStart_append hz]
  split
  · rename_i hs
    rw [hs]
    rfl
  · exact number?_append_blanks hz 1 _

theorem year?_eq_none_append (hz : ∀ c ∈ z, isBlank c = true) (h : year? s = none) :
    year? (s ++ z) = none := by
  unfold year? at h ⊢
  rw [trimStart_append hz]
  cases hs : trimStart s with
  | nil => rfl
  | cons c u =>
    rw [hs] at h
    rw [if_neg (List.cons_ne_nil c u)]
    -- with a sign or without one, it is the number that is missing
    have hnone {t : List Char} {limit limit' : Nat} (ht : number? limit t = none) :
        number? limit' (t ++ z) = none :=
      number?_eq_none_iff.mpr ((number?_eq_none_iff.mp ht).append (endsTime_of_blanks hz).endsNumber)
    split at h
    · rename_i rest hsign
      obtain ⟨rfl, rfl⟩ := List.cons.inj hsign
      exact Option.map_eq_none_iff.mpr (hnone (Option.map_eq_none_iff.mp h))
    · rename_i rest hsign
      obtain ⟨rfl, rfl⟩ := List.cons.inj hsign
      exact Option.map_eq_none_iff.mpr (hnone (Option.map_eq_none_iff.mp h))
    · rename_i hminus hplus
      have hnumber : number? 3 (c :: u ++ z) = none := hnone (Option.map_eq_none_iff.mp h)
      split
      · rename_i hsign
        obtain ⟨rfl, -⟩ := List.cons.inj hsign
        exact absurd rfl (hminus u)
      · rename_i hsign
        obtain ⟨rfl, -⟩ := List.cons.inj hsign
        exact absurd rfl (hplus u)
      · rw [hnumber]
        rfl

theorem year?_append_blanks (hz : ∀ c ∈ z, isBlank c = true) (s : List Char) :
    year? (s ++ z) = (year? s).map fun (n, rest) => (n, rest ++ z) := by
  cases h : year? s with
  | some found => exact year?_before (endsTime_of_blanks hz).endsNumber h
  | none => exact year?_eq_none_append hz h

theorem mark?_append_blanks (hz : ∀ c ∈ z, isBlank c = true) {c : Char} (hc : isBlank c = false)
    (s : List Char) : mark? c (s ++ z) = (mark? c s).map (· ++ z) := by
  cases s with
  | nil =>
    cases z with
    | nil => rfl
    | cons d z =>
      have hne : d ≠ c := by
        rintro rfl
        rw [hz d List.mem_cons_self] at hc
        cases hc
      exact if_neg hne
  | cons d s =>
    rw [List.cons_append, mark?, mark?]
    split <;> rfl

theorem date?_append_blanks (hz : ∀ c ∈ z, isBlank c = true) (s : List Char) :
    date? (s ++ z) = (date? s).map fun (d, rest) => (d, rest ++ z) := by
  have hmark := fun s => mark?_append_blanks hz (c := '-') (by decide) s
  simp only [date?, Option.bind_eq_bind, year?_append_blanks hz, twoDigits?_append_blanks hz, hmark,
    Option.map_bind, Option.bind_map, Function.comp_def]
  rfl

/-! ### Blanks behind days and times -/

theorem fraction?_append_blanks (hz : ∀ c ∈ z, isBlank c = true) (s : List Char) :
    fraction? (s ++ z) = (fraction? s).map fun (n, rest) => (n, rest ++ z) := by
  cases h : fraction? s with
  | some found => exact fraction?_before (endsTime_of_blanks hz) h
  | none =>
    unfold fraction? at h
    split at h
    · rename_i c rest
      split at h
      · cases h
      · rename_i hdigit
        exact if_neg hdigit
    · -- a point alone, behind which no digit can come
      cases z with
      | nil => rfl
      | cons c z =>
        have hend := (endsTime_of_blanks hz).endsNumber
        have hdigit : digit? c = none := digit?_of_isDigit_eq_false (hend c rfl)
        simp [fraction?, hdigit]
    · cases h

theorem time?_append_blanks (hz : ∀ c ∈ z, isBlank c = true) (s : List Char) :
    time? (s ++ z) = (time? s).map fun (t, rest) => (t, rest ++ z) := by
  have hmark := fun s => mark?_append_blanks hz (c := ':') (by decide) s
  simp only [time?, Option.bind_eq_bind, fraction?_append_blanks hz, twoDigits?_append_blanks hz,
    hmark, Option.map_bind, Option.bind_map, Function.comp_def]
  rfl

theorem time?_trimStart (s : List Char) : time? (trimStart s) = time? s := by
  rw [time?, time?, twoDigits?, twoDigits?, trimStart_trimStart]

theorem localDateTime?_append_blanks (hz : ∀ c ∈ z, isBlank c = true) (separator : Separator)
    (s : List Char) : localDateTime? separator (s ++ z) =
      (localDateTime? separator s).map fun (t, rest) => (t, rest ++ z) := by
  have hmark := fun s => mark?_append_blanks hz (c := 'T') (by decide) s
  cases separator with
  | letter =>
    simp only [localDateTime?, Separator.skip?, Option.bind_eq_bind, date?_append_blanks hz, hmark,
      time?_append_blanks hz, Option.map_bind, Option.bind_map, Function.comp_def]
    rfl
  | blanks =>
    simp only [localDateTime?, Separator.skip?, Option.bind_eq_bind, date?_append_blanks hz,
      time?_trimStart, time?_append_blanks hz, Option.map_bind, Option.bind_map, Function.comp_def,
      Option.bind_some]
    rfl

/-! ### Blanks behind offsets -/

theorem pair?_append_blanks (hz : ∀ c ∈ z, isBlank c = true) (s : List Char) :
    pair? (s ++ z) = (pair? s).map fun (n, rest) => (n, rest ++ z) := by
  have hdigit : ∀ c ∈ z, digit? c = none := by
    intro c hc
    apply digit?_of_isDigit_eq_false
    by_contra hdigit
    have hblank := hz c hc
    rw [isBlank_of_isDigit (Bool.eq_true_of_not_eq_false hdigit)] at hblank
    cases hblank
  rcases s with _ | ⟨a, _ | ⟨b, s⟩⟩
  · rcases z with _ | ⟨c, _ | ⟨d, z⟩⟩
    · rfl
    · rfl
    · have hc : digit? c = none := hdigit c List.mem_cons_self
      simp [pair?, hc]
  · rcases z with _ | ⟨c, z⟩
    · rfl
    · have hc : digit? c = none := hdigit c List.mem_cons_self
      simp [pair?, hc]
  · cases ha : digit? a <;> cases hb : digit? b <;> simp [pair?, ha, hb]

theorem offsetMinutes?_of_append_blanks (hz : ∀ c ∈ z, isBlank c = true) {minutes : Nat}
    (hne : s ≠ []) (h : offsetMinutes? (s ++ z) = some minutes) :
    offsetMinutes? s = some minutes := by
  obtain ⟨c, s, rfl⟩ := List.exists_cons_of_ne_nil hne
  simp only [List.cons_append, offsetMinutes?] at h ⊢
  rw [← List.cons_append, pair?_append_blanks hz] at h
  simp only [Option.bind_eq_bind, Option.bind_eq_some_iff, Option.map_eq_some_iff] at h ⊢
  obtain ⟨_, ⟨⟨n, rest⟩, hpair, rfl⟩, _, hguard, hminutes⟩ := h
  -- the blanks would be left over, so that there are none
  have hend : rest = [] ∧ n < 60 := by
    by_contra hnot
    have hfalse : ¬ ((rest ++ z).isEmpty && n < 60) = true := by
      simp only [Bool.and_eq_true, List.isEmpty_iff, List.append_eq_nil_iff, decide_eq_true_eq]
      exact fun hall => hnot ⟨hall.1.1, hall.2⟩
    rw [guard, if_neg hfalse] at hguard
    cases hguard
  exact ⟨(n, rest), hpair, (), by simp [hend], hminutes⟩

theorem offsetSeconds?_of_append_blanks (hz : ∀ c ∈ z, isBlank c = true) {seconds : Nat}
    (h : offsetSeconds? (s ++ z) = some seconds) : offsetSeconds? s = some seconds := by
  rw [offsetSeconds?, pair?_append_blanks hz] at h
  simp only [Option.bind_eq_bind, Option.bind_eq_some_iff, Option.map_eq_some_iff] at h
  obtain ⟨_, ⟨⟨hours, rest⟩, hpair, rfl⟩, minutes, hminutes, hseconds⟩ := h
  have hrest : offsetMinutes? (rest.dropWhile isColonOrBlank) = some minutes := by
    rw [List.dropWhile_append] at hminutes
    split at hminutes
    · -- nothing but blanks and colons is left, with and without `z`
      rename_i hnone
      have hblanks : z.dropWhile isColonOrBlank = [] :=
        List.dropWhile_eq_nil_iff.mpr fun c hc => by simp [isColonOrBlank, hz c hc]
      rw [List.isEmpty_iff.mp hnone, ← hblanks]
      exact hminutes
    · rename_i hsome
      exact offsetMinutes?_of_append_blanks hz (by simpa using hsome) hminutes
  simp only [offsetSeconds?, hpair, Option.bind_eq_bind, Option.bind_some, hrest]
  exact hseconds

/-- **Blanks behind an offset** stand in place of its minutes, so that it is the same without them. -/
theorem offset?_of_append_blanks (hz : ∀ c ∈ z, isBlank c = true) {o : Offset}
    (h : offset? (s ++ z) = some o) : offset? s = some o := by
  unfold offset? at h ⊢
  rw [trimStart_append hz] at h
  cases hs : trimStart s with
  | nil =>
    rw [hs, if_pos rfl] at h
    cases h
  | cons c u =>
    rw [hs, if_neg (List.cons_ne_nil c u)] at h
    simp only [List.cons_append] at h ⊢
    split at h
    · rename_i hzulu
      rw [if_pos hzulu]
      split at h
      · rename_i hend
        have hnil : u.isEmpty = true :=
          List.isEmpty_iff.mpr (List.append_eq_nil_iff.mp (List.isEmpty_iff.mp hend)).1
        rw [if_pos hnil]
        exact h
      · cases h
    · rename_i hzulu
      rw [if_neg hzulu]
      split at h
      · rename_i hplus
        obtain ⟨n, hn, h⟩ := Option.bind_eq_some_iff.mp h
        rw [if_pos hplus]
        exact Option.bind_eq_some_iff.mpr ⟨n, offsetSeconds?_of_append_blanks hz hn, h⟩
      · rename_i hplus
        rw [if_neg hplus]
        split at h
        · rename_i hminus
          obtain ⟨n, hn, h⟩ := Option.bind_eq_some_iff.mp h
          rw [if_pos hminus]
          exact Option.bind_eq_some_iff.mpr ⟨n, offsetSeconds?_of_append_blanks hz hn, h⟩
        · cases h

end Calendar

namespace DateLiteral

open Calendar Text

variable {s z : List Char} {separator : Separator} {literal : DateLiteral}

/-! ### Literals -/

theorem readAware?_of_append_blanks (hz : ∀ c ∈ z, isBlank c = true)
    (h : readAware? separator (s ++ z) = some literal) : readAware? separator s = some literal := by
  simp only [readAware?, localDateTime?_append_blanks hz, Option.bind_eq_bind,
    Option.bind_eq_some_iff, Option.map_eq_some_iff] at h ⊢
  obtain ⟨_, ⟨⟨t, rest⟩, ht, rfl⟩, o, ho, d, hd, hliteral⟩ := h
  exact ⟨⟨t, rest⟩, ht, o, offset?_of_append_blanks hz ho, d, hd, hliteral⟩

/-- A literal with blanks at its end has an offset. -/
theorem readChars?_append_blanks (hz : ∀ c ∈ z, isBlank c = true) (hne : z ≠ []) :
    readChars? (s ++ z) = (readAware? .letter (s ++ z) <|> readAware? .blanks (s ++ z)) := by
  have hnaive : ∀ separator, readNaive? separator (s ++ z) = none := by
    intro separator
    simp only [readNaive?, localDateTime?_append_blanks hz]
    cases localDateTime? separator s <;> simp [hne]
  have hday : readDay? (s ++ z) = none := by
    simp only [readDay?, date?_append_blanks hz]
    cases date? s <;> simp [hne]
  simp [readChars?, hnaive, hday]

theorem readChars?_of_append_blanks (hz : ∀ c ∈ z, isBlank c = true)
    (h : readChars? (s ++ z) = some literal) : readChars? s = some literal := by
  by_cases hne : z = []
  · rwa [hne, List.append_nil] at h
  · rw [readChars?_append_blanks hz hne] at h
    have haware : ∃ separator, readAware? separator (s ++ z) = some literal := by
      cases hletter : readAware? .letter (s ++ z) with
      | some found =>
        rw [hletter] at h
        exact ⟨.letter, hletter.trans h⟩
      | none =>
        rw [hletter] at h
        exact ⟨.blanks, h⟩
    obtain ⟨separator, haware⟩ := haware
    have hread := readAware?_of_append_blanks hz haware
    obtain ⟨x, hx, -⟩ := Option.bind_eq_some_iff.mp hread
    rw [readChars?_of_localDateTime? hx, hread]
    rfl

theorem readChars?_trimStart (s : List Char) : readChars? (trimStart s) = readChars? s := by
  have hdate : date? (trimStart s) = date? s := by
    rw [date?, date?, year?, year?, trimStart_trimStart]
  simp only [readChars?, readAware?, readNaive?, readDay?, localDateTime?, hdate]

theorem read?_trim {s : String} (h : read? s = some literal) : read? (trim s) = some literal := by
  obtain ⟨z, hs, hz⟩ := exists_eq_trimEnd_append (trimStart s.toList)
  rw [read?, ← readChars?_trimStart, hs] at h
  rw [read?, trim, String.toList_ofList]
  exact readChars?_of_append_blanks hz h

end DateLiteral

/-- **A date or time is the same without the blanks around it.** -/
theorem DateTime.read?_trim {s : String} {zone : Offset} {t : DateTime}
    (h : read? s zone = some t) : read? (Text.trim s) zone = some t := by
  unfold read? at h ⊢
  cases hread : DateLiteral.read? s with
  | none =>
    rw [hread] at h
    cases h
  | some literal =>
    rw [hread] at h
    rw [DateLiteral.read?_trim hread]
    exact h

end RecordQuery
