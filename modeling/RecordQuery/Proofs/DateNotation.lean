import RecordQuery.Proofs.Digits

/-!
# Dates and times written and read

What is written for a day, a time of day or an offset is read as that day, time or offset, and what
follows it is given back: `Calendar.date?_write`, `Calendar.time?_write`, `Calendar.offset?_write`.
A year is read whatever its sign and the number of its digits, as long as the day is in range.

A time comes back only if its leap second stands at the end of a minute (`TimeOfDay.LeapEndsMinute`),
for it is written as second 60, and an offset only if it is a whole number of minutes
(`Offset.WholeMinutes`), for it is rounded to them.
-/

namespace RecordQuery

open Text

/-! ### Days -/

theorem Date.ofNumbers?_self (d : Date) : ofNumbers? d.year d.month d.day = some d :=
  dif_pos ⟨⟨d.month_pos, d.month_le⟩, d.day_pos, d.day_le⟩

theorem Date.day_lt (d : Date) : d.day < 100 := by
  have hday : ∀ month, daysInMonth d.year month ≤ 31 := by
    intro month
    unfold daysInMonth
    split
    · split <;> decide
    all_goals decide
  have hle := d.day_le
  have hmonth := hday d.month
  omega

namespace Calendar

theorem year?_padded {n : Nat} (hn : n < 10 ^ 4) (rest : List Char) :
    year? (padded 4 n ++ rest) = some ((n : Int), rest) := by
  have hdigit : ∀ c ∈ (padded 4 n ++ rest).head?, c.isDigit = true := by
    intro c hc
    rw [List.head?_append_of_ne_nil _ (padded_ne_nil 4 n)] at hc
    exact isDigit_of_mem_padded (List.mem_of_mem_head? hc)
  rw [year?, trimStart_padded]
  -- a sign would stand in front, where a digit does
  split
  · rename_i rest' hsign
    rw [hsign] at hdigit
    cases hdigit '-' rfl
  · rename_i rest' hsign
    rw [hsign] at hdigit
    cases hdigit '+' rfl
  · rw [number?_padded hn, Option.map_some]

theorem number?_length_padded (width n : Nat) {rest : List Char} (hrest : EndsNumber rest) :
    number? (padded width n ++ rest).length (padded width n ++ rest) = some (n, rest) := by
  have hle : (padded width n).length ≤ (padded width n ++ rest).length + 1 := by
    rw [List.length_append]
    omega
  rw [number?_append (fun c => isDigit_of_mem_padded) (padded_ne_nil width n) hle (Or.inr hrest),
    ofDigitChars_padded]

theorem year?_writeYear (year : Int) {rest : List Char} (hrest : EndsNumber rest) :
    year? (writeYear year ++ rest) = some (year, rest) := by
  unfold writeYear
  split
  · rename_i hfour
    rw [year?_padded (by omega), Int.toNat_of_nonneg hfour.1]
  · split
    · rename_i hnegative
      have habs : -(year.natAbs : Int) = year := by omega
      rw [List.cons_append, year?, trimStart_of_not_blank (by decide)]
      simp only [number?_length_padded 4 year.natAbs hrest, Option.map_some, habs]
    · rename_i hnegative
      have habs : (year.natAbs : Int) = year := by omega
      rw [List.cons_append, year?, trimStart_of_not_blank (by decide)]
      simp only [number?_length_padded 4 year.natAbs hrest, Option.map_some, habs]

/-- A day in range is read from what is written for it. -/
theorem date?_write {d : Date} (hd : d.inRange = true) (rest : List Char) :
    date? (d.write ++ rest) = some (d, rest) := by
  have hmonth : d.month < 100 := by have := d.month_le; omega
  have hyear (rest : List Char) : year? (writeYear d.year ++ '-' :: rest) = some (d.year, '-' :: rest) :=
    year?_writeYear d.year (endsNumber_cons (by decide) rest)
  simp [date?, Date.write, hyear, mark?, twoDigits?_padded hmonth, twoDigits?_padded d.day_lt,
    Date.ofNumbers?_self, hd]

/-! ### Times of day -/

/-- What may follow a time: neither a digit nor a point stands in front. -/
def EndsTime (rest : List Char) : Prop := ∀ c ∈ rest.head?, c.isDigit = false ∧ c ≠ '.'

theorem EndsTime.endsNumber {rest : List Char} (h : EndsTime rest) : EndsNumber rest :=
  fun c hc => (h c hc).1

theorem fraction?_point {cs rest : List Char} (hcs : ∀ c ∈ cs, c.isDigit = true) (hne : cs ≠ [])
    (hle : cs.length ≤ 9) (hrest : EndsNumber rest) :
    fraction? ('.' :: cs ++ rest) =
      some (Nat.ofDigitChars 10 cs 0 * 10 ^ (9 - cs.length), rest) := by
  obtain ⟨c, cs, rfl⟩ := List.exists_cons_of_ne_nil hne
  have hc : digit? c = some (c.toNat - '0'.toNat) := digit?_of_isDigit (hcs c List.mem_cons_self)
  have hdigits := nanoDigits_append hcs hle hrest
  rw [List.cons_append] at hdigits
  simp [fraction?, hc, hdigits]

theorem fraction?_of_endsTime {rest : List Char} (hrest : EndsTime rest) :
    fraction? rest = some (0, rest) := by
  unfold fraction?
  split
  · exact absurd rfl (hrest '.' rfl).2
  · exact absurd rfl (hrest '.' rfl).2
  · rfl

theorem fraction?_padded {width n : Nat} (hwidth : 0 < width) (hle : width ≤ 9)
    (hn : n < 10 ^ width) {rest : List Char} (hrest : EndsNumber rest) :
    fraction? ('.' :: padded width n ++ rest) = some (n * 10 ^ (9 - width), rest) := by
  have hlength : (padded width n).length = width := length_padded hwidth hn
  rw [fraction?_point (fun c => isDigit_of_mem_padded) (padded_ne_nil width n) (by omega) hrest,
    ofDigitChars_padded, hlength]

theorem fraction?_writeFraction (t : TimeOfDay) {rest : List Char} (hrest : EndsTime rest) :
    fraction? (t.writeFraction ++ rest) = some (t.nano % nanosPerSecond, rest) := by
  have hlt : t.nano % nanosPerSecond < 10 ^ 9 := Nat.mod_lt _ (by decide)
  unfold TimeOfDay.writeFraction
  generalize t.nano % nanosPerSecond = nano at hlt ⊢
  show fraction? ((if nano = 0 then [] else _) ++ rest) = _
  split
  · rename_i hzero
    rw [List.nil_append, fraction?_of_endsTime hrest, hzero]
  · split
    · have hvalue : nano / 1000000 * 10 ^ (9 - 3) = nano := by omega
      rw [fraction?_padded (by decide) (by decide) (by omega) hrest.endsNumber, hvalue]
    · split
      · have hvalue : nano / 1000 * 10 ^ (9 - 6) = nano := by omega
        rw [fraction?_padded (by decide) (by decide) (by omega) hrest.endsNumber, hvalue]
      · rw [fraction?_padded (by decide) (by decide) hlt hrest.endsNumber, Nat.sub_self,
          Nat.pow_zero, Nat.mul_one]

end Calendar

namespace TimeOfDay

variable {t : TimeOfDay}

/-- A leap second comes at the end of a minute. -/
def LeapEndsMinute (t : TimeOfDay) : Prop := nanosPerSecond ≤ t.nano → t.second % 60 = 59

theorem shownSecond_of_lt (h : t.nano < nanosPerSecond) : t.shownSecond = t.second % 60 := by
  rw [shownSecond, Nat.div_eq_of_lt h, Nat.add_zero]

theorem shownSecond_of_le (ht : t.LeapEndsMinute) (h : nanosPerSecond ≤ t.nano) :
    t.shownSecond = 60 := by
  have hquotient : t.nano / nanosPerSecond = 1 :=
    Nat.div_eq_of_lt_le (by omega) (by have := t.nano_lt; omega)
  rw [shownSecond, ht h, hquotient]

theorem shownSecond_le (ht : t.LeapEndsMinute) : t.shownSecond ≤ 60 := by
  rcases Nat.lt_or_ge t.nano nanosPerSecond with h | h
  · rw [shownSecond_of_lt h]
    omega
  · exact (shownSecond_of_le ht h).le

/-- The numbers that are written for a time are those of the time. -/
theorem ofNumbers?_shown (ht : t.LeapEndsMinute) :
    ofNumbers? (t.second / 3600) (t.second / 60 % 60) t.shownSecond (t.nano % nanosPerSecond) =
      some t := by
  have hsecond := t.second_lt
  simp only [secondsPerDay] at hsecond
  have hnumbers : (t.second / 3600 < 24 ∧ t.second / 60 % 60 < 60) ∧ t.shownSecond ≤ 60 ∧
      t.nano % nanosPerSecond < nanosPerSecond :=
    ⟨by omega, shownSecond_le ht, Nat.mod_lt _ (by decide)⟩
  have hwhole : t.second / 3600 * 3600 + t.second / 60 % 60 * 60 + min t.shownSecond 59 =
      t.second := by
    rcases Nat.lt_or_ge t.nano nanosPerSecond with h | h
    · rw [shownSecond_of_lt h]
      omega
    · rw [shownSecond_of_le ht h]
      have hleap := ht h
      omega
  have hpart : (t.shownSecond - 59) * nanosPerSecond + t.nano % nanosPerSecond = t.nano := by
    rcases Nat.lt_or_ge t.nano nanosPerSecond with h | h
    · rw [shownSecond_of_lt h, Nat.mod_eq_of_lt h, Nat.sub_eq_zero_of_le (by omega), Nat.zero_mul,
        Nat.zero_add]
    · have hmod : t.nano % nanosPerSecond = t.nano - nanosPerSecond := by
        rw [Nat.mod_eq_sub_mod h, Nat.mod_eq_of_lt (by have := t.nano_lt; omega)]
      rw [shownSecond_of_le ht h, hmod]
      omega
  rw [ofNumbers?, dif_pos hnumbers]
  simp only [hwhole, hpart]

end TimeOfDay

theorem Calendar.time?_write {t : TimeOfDay} (ht : t.LeapEndsMinute) {rest : List Char}
    (hrest : EndsTime rest) :
    time? (t.write ++ (t.writeFraction ++ rest)) = some (t, rest) := by
  have hsecond := t.second_lt
  have hshown := t.shownSecond_le ht
  simp only [secondsPerDay] at hsecond
  have hhour : t.second / 3600 < 100 := by omega
  have hminute : t.second / 60 % 60 < 100 := by omega
  have hshort : t.shownSecond < 100 := by omega
  simp [time?, TimeOfDay.write, mark?, twoDigits?_padded hhour, twoDigits?_padded hminute,
    twoDigits?_padded hshort, fraction?_writeFraction t hrest, TimeOfDay.ofNumbers?_shown ht]

/-! ### Offsets -/

theorem Offset.ofSeconds?_seconds (o : Offset) : ofSeconds? o.seconds = some o :=
  dif_pos ⟨o.gt, o.lt⟩

/-- The offset is a whole number of minutes. -/
def Offset.WholeMinutes (o : Offset) : Prop := 60 ∣ o.seconds

instance (o : Offset) : Decidable o.WholeMinutes := inferInstanceAs (Decidable (60 ∣ o.seconds))

theorem Offset.wholeMinutes_utc : utc.WholeMinutes := by decide

namespace Calendar

theorem dropWhile_isColonOrBlank_colon {n : Nat} :
    (':' :: padded 2 n).dropWhile isColonOrBlank = padded 2 n := by
  obtain ⟨c, cs, hcs⟩ := List.exists_cons_of_ne_nil (padded_ne_nil 2 n)
  have hc : c.isDigit = true := isDigit_of_mem_padded (hcs ▸ List.mem_cons_self)
  have hcolon : c ≠ ':' := by
    rintro rfl
    cases hc
  have hstop : isColonOrBlank c = false := by
    simp [isColonOrBlank, hcolon, isBlank_of_isDigit hc]
  rw [List.dropWhile_cons_of_pos (by decide), hcs, List.dropWhile_cons_of_neg (by simp [hstop])]

theorem offsetMinutes?_padded {n : Nat} (hn : n < 60) : offsetMinutes? (padded 2 n) = some n := by
  have hpair := pair?_padded (n := n) (by omega) []
  rw [List.append_nil] at hpair
  unfold offsetMinutes?
  split
  · rename_i hnil
    exact absurd hnil (padded_ne_nil 2 n)
  · simp [hpair, hn]

theorem offsetSeconds?_padded {hours minutes : Nat} (hhours : hours < 100) (hminutes : minutes < 60) :
    offsetSeconds? (padded 2 hours ++ ':' :: padded 2 minutes) =
      some (hours * 3600 + minutes * 60) := by
  simp [offsetSeconds?, pair?_padded hhours, dropWhile_isColonOrBlank_colon,
    offsetMinutes?_padded hminutes]

theorem offset?_plus {s : List Char} {n : Nat} (h : offsetSeconds? s = some n) :
    offset? ('+' :: s) = Offset.ofSeconds? n := by
  rw [offset?, trimStart_of_not_blank (by decide)]
  show (if '+' = 'Z' ∨ '+' = 'z' then _ else if '+' = '+' then _ else _) = _
  rw [if_neg (by decide), if_pos rfl, h, Option.bind_eq_bind, Option.bind_some]

theorem offset?_minus {s : List Char} {n : Nat} (h : offsetSeconds? s = some n) :
    offset? ('-' :: s) = Offset.ofSeconds? (-(n : Int)) := by
  rw [offset?, trimStart_of_not_blank (by decide)]
  show (if '-' = 'Z' ∨ '-' = 'z' then _ else if '-' = '+' then _ else
    if '-' = '-' ∨ '-' = '\u2212' then _ else _) = _
  rw [if_neg (by decide), if_neg (by decide), if_pos (Or.inl rfl), h, Option.bind_eq_bind,
    Option.bind_some]

/-- An offset of whole minutes is read from what is written for it. -/
theorem offset?_write {o : Offset} (ho : o.WholeMinutes) : offset? o.write = some o := by
  have habs : o.seconds.natAbs < 86400 := by
    have hgt := o.gt
    have hlt := o.lt
    simp only [secondsPerDay] at hgt hlt
    omega
  have hdvd : 60 ∣ o.seconds.natAbs := Int.natCast_dvd.mp ho
  simp only [Offset.write]
  generalize hminutes : (o.seconds.natAbs + 30) / 60 = minutes
  have hseconds : offsetSeconds? (padded 2 (minutes / 60) ++ ':' :: padded 2 (minutes % 60)) =
      some o.seconds.natAbs := by
    have hvalue : minutes / 60 * 3600 + minutes % 60 * 60 = o.seconds.natAbs := by omega
    rw [offsetSeconds?_padded (by omega) (by omega), hvalue]
  split
  · have hvalue : -(o.seconds.natAbs : Int) = o.seconds := by omega
    rw [List.cons_append, offset?_minus hseconds, hvalue, Offset.ofSeconds?_seconds]
  · have hvalue : (o.seconds.natAbs : Int) = o.seconds := by omega
    rw [List.cons_append, offset?_plus hseconds, hvalue, Offset.ofSeconds?_seconds]

end Calendar

/-! ### Days with times -/

namespace Calendar

theorem EndsTime.write (o : Offset) : EndsTime o.write := by
  intro c hc
  simp only [Offset.write] at hc
  split at hc
  · cases hc
    decide
  · cases hc
    decide

theorem localDateTime?_letter {t : LocalDateTime} (hdate : t.date.inRange = true)
    (htime : t.time.LeapEndsMinute) {rest : List Char} (hrest : EndsTime rest) :
    localDateTime? .letter (t.writeIso ++ rest) = some (t, rest) := by
  have hread := date?_write hdate ('T' :: (t.time.write ++ (t.time.writeFraction ++ rest)))
  simp [localDateTime?, LocalDateTime.writeIso, hread, Separator.skip?, mark?,
    time?_write htime hrest]

end Calendar

end RecordQuery
