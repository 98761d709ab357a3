import RecordQuery.Proofs.InstantNotation

/-!
# Offsets written into literals, and offsets of their readers

A scanner takes what it reads from the front of the text and looks at one more character at most, to
see where a number ends.  What follows the text does not change what is read, as long as no number goes
on in it (`Calendar.localDateTime?_before`), and none does in an offset (`Calendar.endsTime_of_offset?`).

A date and time with an offset behind it is therefore read as the same date and time, and then the
offset, and no form with the other separator and no day alone fits it
(`DateLiteral.readChars?_of_localDateTime?`).  So it makes no difference whether the offset is written
into the literal or is that of the reader (`DateLiteral.offset_written_or_read`).
-/

namespace RecordQuery

open Text

namespace Calendar

variable {s z rest : List Char}

/-! ### What follows a number -/

theorem trimStart_before (h : trimStart s ≠ []) (z : List Char) :
    trimStart (s ++ z) = trimStart s ++ z := by
  have hne : ¬ (s.dropWhile isBlank).isEmpty = true := by simpa [trimStart] using h
  rw [trimStart, List.dropWhile_append, if_neg hne, trimStart]

theorem moreDigits_before (hz : EndsNumber z) {limit value n : Nat}
    (h : moreDigits value limit s = (n, rest)) :
    moreDigits value limit (s ++ z) = (n, rest ++ z) := by
  induction s generalizing limit value with
  | nil =>
    have hnil : moreDigits value limit [] = (value, []) := by cases limit <;> rfl
    obtain ⟨rfl, rfl⟩ := Prod.mk.inj (hnil.symm.trans h)
    have hnone : ∀ c ∈ ([] : List Char), c.isDigit = true := nofun
    exact moreDigits_append hnone (Nat.zero_le limit) (Or.inr hz) value
  | cons c s ih =>
    cases limit with
    | zero =>
      obtain ⟨rfl, rfl⟩ := Prod.mk.inj h
      rfl
    | succ limit =>
      cases hc : digit? c with
      | none =>
        have hstop : ∀ u, moreDigits value (limit + 1) (c :: u) = (value, c :: u) := by
          simp [moreDigits, hc]
        obtain ⟨rfl, rfl⟩ := Prod.mk.inj ((hstop s).symm.trans h)
        exact hstop (s ++ z)
      | some d =>
        simp only [List.cons_append, moreDigits, hc] at h ⊢
        exact ih h

/-- A limit that the text does not reach makes no difference. -/
theorem moreDigits_of_length_le {limit limit' : Nat} (h : s.length ≤ limit) (h' : s.length ≤ limit')
    (value : Nat) : moreDigits value limit s = moreDigits value limit' s := by
  induction s generalizing limit limit' value with
  | nil => cases limit <;> cases limit' <;> rfl
  | cons c s ih =>
    obtain ⟨limit, rfl⟩ : ∃ l, limit = l + 1 := ⟨limit - 1, by simp at h; omega⟩
    obtain ⟨limit', rfl⟩ : ∃ l, limit' = l + 1 := ⟨limit' - 1, by simp at h'; omega⟩
    simp only [moreDigits]
    cases digit? c with
    | none => rfl
    | some d => exact ih (by simpa using h) (by simpa using h') _

theorem number?_before (hz : EndsNumber z) {limit n : Nat} (h : number? limit s = some (n, rest)) :
    number? limit (s ++ z) = some (n, rest ++ z) := by
  cases s with
  | nil => cases h
  | cons c s =>
    obtain ⟨d, hd, h⟩ := Option.map_eq_some_iff.mp h
    rw [List.cons_append, number?, hd, Option.map_some, moreDigits_before hz h]

theorem twoDigits?_before (hz : EndsNumber z) {n : Nat} (h : twoDigits? s = some (n, rest)) :
    twoDigits? (s ++ z) = some (n, rest ++ z) := by
  unfold twoDigits? at h ⊢
  have hne : trimStart s ≠ [] := by
    intro hnil
    rw [hnil] at h
    cases h
  rw [trimStart_before hne, number?_before hz h]

/-! ### What follows a day -/

theorem number?_length_before (hz : EndsNumber z) {n : Nat}
    (h : number? s.length s = some (n, rest)) :
    number? (s ++ z).length (s ++ z) = some (n, rest ++ z) := by
  apply number?_before hz
  cases s with
  | nil => cases h
  | cons c s =>
    rw [← h, number?, number?]
    cases digit? c with
    | none => rfl
    | some d =>
      exact congrArg some (moreDigits_of_length_le (by simp; omega) (by simp) d)

theorem year?_before (hz : EndsNumber z) {year : Int} (h : year? s = some (year, rest)) :
    year? (s ++ z) = some (year, rest ++ z) := by
  have hne : trimStart s ≠ [] := by
    intro hnil
    rw [year?, hnil] at h
    cases h
  unfold year? at h ⊢
  rw [trimStart_before hne]
  split at h
  · rename_i u hsign
    obtain ⟨⟨n, r⟩, hn, h⟩ := Option.map_eq_some_iff.mp h
    cases h
    simp only [hsign, List.cons_append, number?_length_before hz hn, Option.map_some]
  · rename_i u hsign
    obtain ⟨⟨n, r⟩, hn, h⟩ := Option.map_eq_some_iff.mp h
    cases h
    simp only [hsign, List.cons_append, number?_length_before hz hn, Option.map_some]
  · rename_i hminus hplus
    obtain ⟨⟨n, r⟩, hn, h⟩ := Option.map_eq_some_iff.mp h
    cases h
    obtain ⟨c, u, hu⟩ := List.exists_cons_of_ne_nil hne
    rw [hu] at hn hminus hplus ⊢
    have hread := number?_before hz hn
    -- a sign would stand in front of the text too
    split
    · rename_i hsign
      obtain ⟨rfl, -⟩ := List.cons.inj hsign
      exact absurd rfl (hminus u)
    · rename_i hsign
      obtain ⟨rfl, -⟩ := List.cons.inj hsign
      exact absurd rfl (hplus u)
    · rw [hread, Option.map_some]

theorem eq_cons_of_mark? {c : Char} (h : mark? c s = some rest) : s = c :: rest := by
  cases s with
  | nil => cases h
  | cons d s =>
    by_cases hc : d = c
    · simpa [mark?, hc] using h
    · simp [mark?, hc] at h

theorem mark?_before {c : Char} (h : mark? c s = some rest) (z : List Char) :
    mark? c (s ++ z) = some (rest ++ z) := by
  rw [eq_cons_of_mark? h, List.cons_append, mark?, if_pos rfl]

theorem date?_before (hz : EndsNumber z) {d : Date} (h : date? s = some (d, rest)) :
    date? (s ++ z) = some (d, rest ++ z) := by
  simp only [date?, Option.bind_eq_bind, Option.bind_eq_some_iff] at h
  obtain ⟨⟨year, s₁⟩, hyear, s₂, hmark, ⟨month, s₃⟩, hmonth, s₄, hmark', ⟨day, s₅⟩, hday, d', hd', _,
    hrange, h⟩ := h
  cases h
  simp only [date?, Option.bind_eq_bind, Option.bind_some, year?_before hz hyear,
    mark?_before hmark, twoDigits?_before hz hmonth, mark?_before hmark', twoDigits?_before hz hday,
    hd', hrange]
  rfl

/-! ### What follows a time -/

theorem nanoDigits_before (hz : EndsNumber z) {places n : Nat}
    (h : nanoDigits places s = (n, rest)) : nanoDigits places (s ++ z) = (n, rest ++ z) := by
  induction s generalizing places n with
  | nil =>
    have hnil : nanoDigits places [] = (0, []) := by cases places <;> rfl
    obtain ⟨rfl, rfl⟩ := Prod.mk.inj (hnil.symm.trans h)
    have hnone : ∀ c ∈ ([] : List Char), c.isDigit = true := nofun
    have hread := nanoDigits_append hnone (Nat.zero_le places) hz
    simpa using hread
  | cons c s ih =>
    cases hc : digit? c with
    | none =>
      have hstop : ∀ u, nanoDigits places (c :: u) = (0, c :: u) := by
        intro u
        cases places <;> simp [nanoDigits, hc]
      obtain ⟨rfl, rfl⟩ := Prod.mk.inj ((hstop s).symm.trans h)
      exact hstop (s ++ z)
    | some d =>
      cases places with
      | zero =>
        simp only [List.cons_append, nanoDigits, hc] at h ⊢
        exact ih h
      | succ places =>
        simp only [List.cons_append, nanoDigits, hc] at h ⊢
        obtain ⟨rfl, rfl⟩ := Prod.mk.inj h
        rw [ih rfl]

theorem fraction?_before (hz : EndsTime z) {n : Nat} (h : fraction? s = some (n, rest)) :
    fraction? (s ++ z) = some (n, rest ++ z) := by
  unfold fraction? at h
  split at h
  · rename_i c r
    split at h
    · rename_i hdigit
      have hread := nanoDigits_before hz.endsNumber (Option.some.inj h)
      simp only [List.cons_append] at hread
      simp only [List.cons_append, fraction?, hdigit, if_true, hread]
    · cases h
  · cases h
  · rename_i hpoint hend
    cases h
    cases s with
    | nil => exact fraction?_of_endsTime hz
    | cons d s =>
      have hd : d ≠ '.' := by
        rintro rfl
        cases s with
        | nil => exact hend rfl
        | cons e s => exact hpoint e s rfl
      simp [fraction?, hd]

theorem time?_before (hz : EndsTime z) {t : TimeOfDay} (h : time? s = some (t, rest)) :
    time? (s ++ z) = some (t, rest ++ z) := by
  simp only [time?, Option.bind_eq_bind, Option.bind_eq_some_iff] at h
  obtain ⟨⟨hour, s₁⟩, hhour, s₂, hmark, ⟨minute, s₃⟩, hminute, s₄, hmark', ⟨second, s₅⟩, hsecond,
    ⟨nano, s₆⟩, hnano, t', ht', h⟩ := h
  cases h
  simp only [time?, Option.bind_eq_bind, Option.bind_some, twoDigits?_before hz.endsNumber hhour,
    mark?_before hmark, twoDigits?_before hz.endsNumber hminute, mark?_before hmark',
    twoDigits?_before hz.endsNumber hsecond, fraction?_before hz hnano, ht']
  rfl

/-! ### Days with times -/

theorem time?_letter (rest : List Char) : time? ('T' :: rest) = none := by
  simp [time?, twoDigits?, trimStart, isBlank, number?, digit?]

theorem skip?_before {separator : Separator} (h : separator.skip? s = some rest) (hne : rest ≠ [])
    (z : List Char) : separator.skip? (s ++ z) = some (rest ++ z) := by
  cases separator with
  | letter => exact mark?_before h z
  | blanks =>
    cases h
    exact congrArg some (trimStart_before hne z)

/-- **What follows a date and time is not looked at**, unless a number goes on in it. -/
theorem localDateTime?_before (hz : EndsTime z) {separator : Separator} {t : LocalDateTime}
    (h : localDateTime? separator s = some (t, rest)) :
    localDateTime? separator (s ++ z) = some (t, rest ++ z) := by
  simp only [localDateTime?, Option.bind_eq_bind, Option.bind_eq_some_iff] at h
  obtain ⟨⟨date, s₁⟩, hdate, s₂, hskip, ⟨time, s₃⟩, htime, h⟩ := h
  cases h
  have hne : s₂ ≠ [] := by
    rintro rfl
    cases htime
  simp only [localDateTime?, Option.bind_eq_bind, Option.bind_some, date?_before hz.endsNumber hdate,
    skip?_before hskip hne, time?_before hz htime]
  rfl

/-- A date and time is read with one separator only. -/
theorem separator_eq_of_localDateTime? {separator separator' : Separator}
    {t t' : LocalDateTime × List Char} (h : localDateTime? separator s = some t)
    (h' : localDateTime? separator' s = some t') : separator = separator' := by
  -- the letter is no blank, and no time begins with it
  have hletter : ∀ {t t'}, localDateTime? .letter s = some t → localDateTime? .blanks s ≠ some t' := by
    intro t t' h h'
    simp only [localDateTime?, Option.bind_eq_bind, Option.bind_eq_some_iff] at h h'
    obtain ⟨⟨date, s₁⟩, hdate, s₂, hmark, -⟩ := h
    obtain ⟨⟨date', s₁'⟩, hdate', s₂', htrim, ⟨time, s₃⟩, htime, -⟩ := h'
    obtain ⟨rfl, rfl⟩ := Prod.mk.inj (Option.some.inj (hdate.symm.trans hdate'))
    obtain rfl := eq_cons_of_mark? hmark
    rw [Separator.skip?, trimStart_of_not_blank (by decide)] at htrim
    cases htrim
    rw [time?_letter] at htime
    cases htime
  cases separator <;> cases separator'
  · rfl
  · exact absurd h' (hletter h)
  · exact absurd h (hletter h')
  · rfl

/-- An offset may follow a time: blanks, a sign or a letter stands in front. -/
theorem endsTime_of_offset? {o : Offset} (h : offset? z = some o) : EndsTime z := by
  intro c hc
  by_cases hblank : isBlank c = true
  · refine ⟨Bool.eq_false_iff.mpr fun hdigit => ?_, ?_⟩
    · rw [isBlank_of_isDigit hdigit] at hblank
      cases hblank
    · rintro rfl
      cases hblank
  · obtain ⟨z, rfl⟩ := List.head?_eq_some_iff.mp hc
    rw [offset?, trimStart_of_not_blank (Bool.eq_false_iff.mpr hblank)] at h
    simp only at h
    have hfirst : c = 'Z' ∨ c = 'z' ∨ c = '+' ∨ c = '-' ∨ c = '\u2212' := by
      by_contra hnone
      simp only [not_or] at hnone
      simp [hnone] at h
    rcases hfirst with rfl | rfl | rfl | rfl | rfl <;> decide

theorem offset?_nil : offset? [] = none := rfl

end Calendar

/-! ### Which form is read -/

namespace DateLiteral

open Calendar

variable {s z : List Char} {separator : Separator} {t : LocalDateTime}

theorem localDateTime?_eq_none_of_ne {separator' : Separator} {x : LocalDateTime × List Char}
    (h : localDateTime? separator s = some x) (hne : separator' ≠ separator) :
    localDateTime? separator' s = none := by
  rw [Option.eq_none_iff_forall_ne_some]
  intro x' hx'
  exact hne (separator_eq_of_localDateTime? hx' h)

theorem readDay?_eq_none {x : LocalDateTime × List Char}
    (h : localDateTime? separator s = some x) : readDay? s = none := by
  simp only [localDateTime?, Option.bind_eq_bind, Option.bind_eq_some_iff] at h
  obtain ⟨⟨date, s₁⟩, hdate, s₂, hskip, ⟨time, s₃⟩, htime, -⟩ := h
  have hne : s₁ ≠ [] := by
    rintro rfl
    cases separator with
    | letter => cases hskip
    | blanks =>
      cases hskip
      cases htime
  simp [readDay?, hdate, hne]

/-- A date and time is read in no form but those with its separator. -/
theorem readChars?_of_localDateTime? {x : LocalDateTime × List Char}
    (h : localDateTime? separator s = some x) :
    readChars? s = (readAware? separator s <|> readNaive? separator s) := by
  have haware : ∀ separator', separator' ≠ separator → readAware? separator' s = none := by
    intro separator' hne
    simp [readAware?, localDateTime?_eq_none_of_ne h hne]
  have hnaive : ∀ separator', separator' ≠ separator → readNaive? separator' s = none := by
    intro separator' hne
    simp [readNaive?, localDateTime?_eq_none_of_ne h hne]
  have hday : readDay? s = none := readDay?_eq_none h
  cases separator with
  | letter => simp [readChars?, haware .blanks (by decide), hnaive .blanks (by decide), hday]
  | blanks => simp [readChars?, haware .letter (by decide), hnaive .letter (by decide), hday]

/-- A date and time with nothing behind it is naive. -/
theorem readChars?_of_nil (h : localDateTime? separator s = some (t, [])) :
    readChars? s = some (.naive t) := by
  simp [readChars?_of_localDateTime? h, readAware?, readNaive?, h, offset?_nil]

/-- A date and time with an offset behind it is the instant there, if there is one, and nothing else. -/
theorem readChars?_of_offset? {o : Offset} (h : localDateTime? separator s = some (t, z))
    (hz : offset? z = some o) : readChars? s = (DateTime.ofLocal? t o).map .aware := by
  have hne : z ≠ [] := by
    rintro rfl
    cases hz
  simp [readChars?_of_localDateTime? h, readAware?, readNaive?, h, hz, hne, Option.map_eq_bind]

theorem localDateTime?_of_readNaive? (h : readNaive? separator s = some (.naive t)) :
    localDateTime? separator s = some (t, []) := by
  simp only [readNaive?, Option.bind_eq_bind, Option.bind_eq_some_iff] at h
  obtain ⟨⟨t', rest⟩, hread, _, hrest, h⟩ := h
  cases h
  have hnil : rest = [] := by simpa [guard] using hrest
  rw [hread, hnil]

end DateLiteral

/-! ### What is read in an offset -/

/-- At the instant clocks in an offset show a date and time, which is ahead of that in UTC by the
offset. -/
structure DateTime.Shows (d : DateTime) (t : LocalDateTime) (o : Offset) : Prop where
  offset_eq : d.offset = o
  inOwnOffset_eq : d.inOwnOffset = t
  secondNumber_eq : d.utc.secondNumber = t.secondNumber - o.seconds
  nano_eq : d.utc.time.nano = t.time.nano

theorem DateTime.shows_of_ofLocal? {t : LocalDateTime} {o : Offset} {d : DateTime}
    (h : ofLocal? t o = some d) : d.Shows t o := by
  obtain ⟨hoffset, hown, _⟩ := inOwnOffset_of_ofLocal? h
  have hutc : d.utc = t.shift o.neg := by
    unfold ofLocal? at h
    simp only at h
    split at h
    · cases h
      rfl
    · cases h
  refine ⟨hoffset, hown, ?_, ?_⟩
  · rw [hutc, LocalDateTime.secondNumber_shift]
    rfl
  · rw [hutc]
    rfl

theorem DateTime.shows_of_read? {s : String} {t : LocalDateTime} {o : Offset} {d : DateTime}
    (hs : DateLiteral.read? s = some (.naive t)) (h : read? s o = some d) : d.Shows t o := by
  rw [read?, hs] at h
  exact shows_of_ofLocal? h

theorem Offset.read?_eq_offset? {z : String} (hz : z ≠ "UTC") (hz' : z ≠ "utc") :
    Offset.read? z = Calendar.offset? z.toList := by
  rw [Offset.read?, if_neg (not_or.mpr ⟨hz, hz'⟩)]

/-- **An offset written into a literal is the offset of its reader.**  A date and time that is naive is
aware with an offset behind it, blanks before the offset included, exactly if a reader in that offset
reads it, and is then the same instant.  A naive literal, a day alone too, is read in two offsets as the
same date and time, and as instants that are as far apart as the offsets; an aware one is read in all
offsets alike. -/
theorem DateLiteral.offset_written_or_read (s : String) (o : Offset) :
    (∀ (z : String) (separator : Calendar.Separator) (t : LocalDateTime),
      readNaive? separator s.toList = some (.naive t) → z ≠ "UTC" → z ≠ "utc" →
      Offset.read? z = some o →
        read? s = some (.naive t) ∧
        read? (s ++ z) = (DateTime.read? s o).map .aware ∧
        ∀ d, DateTime.read? s o = some d → d.Shows t o) ∧
    (∀ (t : LocalDateTime) (o' : Offset) (d d' : DateTime),
      read? s = some (.naive t) → DateTime.read? s o = some d → DateTime.read? s o' = some d' →
        d'.utc.secondNumber - d.utc.secondNumber = o.seconds - o'.seconds ∧
        d'.utc.time.nano = d.utc.time.nano ∧ d'.inOwnOffset = d.inOwnOffset) ∧
    (∀ d, read? s = some (.aware d) → DateTime.read? s o = some d) := by
  refine ⟨?_, ?_, ?_⟩
  · intro z separator t hs hz hz' ho
    rw [Offset.read?_eq_offset? hz hz'] at ho
    have hlocal := localDateTime?_of_readNaive? hs
    have hnaive : read? s = some (.naive t) := readChars?_of_nil hlocal
    have hbehind : Calendar.localDateTime? separator (s ++ z).toList = some (t, z.toList) := by
      rw [String.toList_append]
      exact Calendar.localDateTime?_before (Calendar.endsTime_of_offset? ho) hlocal
    refine ⟨hnaive, ?_, fun d hd => DateTime.shows_of_read? hnaive hd⟩
    rw [read?, readChars?_of_offset? hbehind ho, DateTime.read?, hnaive]
  · intro t o' d d' hs hd hd'
    have hshows := DateTime.shows_of_read? hs hd
    have hshows' := DateTime.shows_of_read? hs hd'
    refine ⟨?_, ?_, ?_⟩
    · rw [hshows.secondNumber_eq, hshows'.secondNumber_eq]
      omega
    · rw [hshows.nano_eq, hshows'.nano_eq]
    · rw [hshows.inOwnOffset_eq, hshows'.inOwnOffset_eq]
  · intro d hs
    rw [DateTime.read?, hs]

/-- A leap second and a fraction, and a blank before the offset. -/
theorem DateLiteral.offset_written_or_read_leap_second :
    ∃ o d d', Offset.read? " -03:30" = some o ∧
      DateTime.read? "2016-12-31T23:59:60.25" o = some d ∧
      DateTime.read? "2016-12-31T23:59:60.25" Offset.utc = some d' ∧
      d'.utc.secondNumber - d.utc.secondNumber = -12600 ∧
      ∀ zone, DateTime.read? ("2016-12-31T23:59:60.25" ++ " -03:30") zone = some d := by
  have hlocal : (Calendar.localDateTime? .letter "2016-12-31T23:59:60.25".toList).map Prod.snd =
      some [] := by decide
  obtain ⟨⟨t, _⟩, ht, rfl⟩ := Option.map_eq_some_iff.mp hlocal
  have hread : readNaive? .letter "2016-12-31T23:59:60.25".toList = some (.naive t) := by
    simp only [readNaive?, ht]
    rfl
  have hoffset : (Offset.read? " -03:30").map Offset.seconds = some (-12600) := by decide
  obtain ⟨o, ho, hseconds⟩ := Option.map_eq_some_iff.mp hoffset
  obtain ⟨hwritten, hnaive, -⟩ := DateLiteral.offset_written_or_read "2016-12-31T23:59:60.25" o
  obtain ⟨hs, happend, -⟩ := hwritten " -03:30" .letter t hread (by decide) (by decide) ho
  have hthere : ((Offset.read? " -03:30").bind fun o =>
      DateTime.read? "2016-12-31T23:59:60.25" o).isSome := by decide
  rw [ho, Option.bind_some] at hthere
  obtain ⟨d, hd⟩ := Option.isSome_iff_exists.mp hthere
  have hutc : (DateTime.read? "2016-12-31T23:59:60.25" Offset.utc).isSome := by decide
  obtain ⟨d', hd'⟩ := Option.isSome_iff_exists.mp hutc
  have hapart := (hnaive t Offset.utc d d' hs hd hd').1
  rw [hseconds] at hapart
  rw [hd, Option.map_some] at happend
  refine ⟨o, d, d', ho, hd, hd', hapart, fun zone => ?_⟩
  exact (DateLiteral.offset_written_or_read _ zone).2.2 d happend

/-- An hour before the first instant. -/
example : DateLiteral.read? "-262143-01-01T00:00:00+01:00" = none := by decide

end RecordQuery
