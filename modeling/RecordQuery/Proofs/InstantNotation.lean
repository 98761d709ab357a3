import RecordQuery.Coercion
import RecordQuery.Proofs.DateNotation

/-!
# Instants written and read

An instant that has been read lies in range, in UTC and in its own offset, and its leap second, if
it is one, ends a minute there (`DateTime.Proper`, `DateTime.proper_of_read?`).

Such an instant is read from its text in its own offset, whoever reads it (`read?_rfc3339`), and from
its text in another offset by a reader in that offset, but for the fraction of its second, which is
not shown there (`read?_displayIn`).  The offsets have to be whole minutes, and no others can be read
(`Calendar.wholeMinutes_of_offset?`).
-/

namespace RecordQuery

open Text Calendar

/-! ### Offsets and moving by them -/

theorem Calendar.dvd_of_offsetSeconds? {s : List Char} {n : Nat} (h : offsetSeconds? s = some n) :
    60 ∣ n := by
  simp only [offsetSeconds?, Option.bind_eq_bind, Option.bind_eq_some_iff] at h
  obtain ⟨⟨hours, s⟩, _, minutes, _, hn⟩ := h
  cases hn
  omega

theorem Offset.seconds_of_ofSeconds? {seconds : Int} {o : Offset} (h : ofSeconds? seconds = some o) :
    o.seconds = seconds := by
  unfold ofSeconds? at h
  split at h
  · cases h
    rfl
  · cases h

/-- An offset that has been read is a whole number of minutes. -/
theorem Calendar.wholeMinutes_of_offset? {s : List Char} {o : Offset} (h : offset? s = some o) :
    o.WholeMinutes := by
  unfold offset? at h
  split at h
  · cases h
  · split at h
    · split at h
      · cases h
        exact Offset.wholeMinutes_utc
      · cases h
    · split at h
      · obtain ⟨n, hn, h⟩ := Option.bind_eq_some_iff.mp h
        rw [Offset.WholeMinutes, Offset.seconds_of_ofSeconds? h]
        exact Int.natCast_dvd_natCast.mpr (dvd_of_offsetSeconds? hn)
      · split at h
        · obtain ⟨n, hn, h⟩ := Option.bind_eq_some_iff.mp h
          rw [Offset.WholeMinutes, Offset.seconds_of_ofSeconds? h]
          exact Int.dvd_neg.mpr (Int.natCast_dvd_natCast.mpr (dvd_of_offsetSeconds? hn))
        · cases h

theorem Offset.wholeMinutes_of_read? {s : String} {o : Offset} (h : Offset.read? s = some o) :
    o.WholeMinutes := by
  unfold Offset.read? at h
  split at h
  · cases h
    exact Offset.wholeMinutes_utc
  · exact wholeMinutes_of_offset? h

theorem Offset.neg_neg (o : Offset) : o.neg.neg = o := by
  cases o
  simp [Offset.neg]

/-- The whole minutes of an offset leave the seconds within the minute as they are. -/
theorem LocalDateTime.leapEndsMinute_shift_iff {t : LocalDateTime} {o : Offset}
    (ho : o.WholeMinutes) : (t.shift o).time.LeapEndsMinute ↔ t.time.LeapEndsMinute := by
  have hsecond : (t.shift o).time.second % 60 = t.time.second % 60 := by
    unfold Offset.WholeMinutes at ho
    simp only [LocalDateTime.shift, secondsPerDay]
    omega
  show (_ ≤ t.time.nano → _) ↔ _
  rw [hsecond]
  rfl

namespace DateTime

theorem inOwnOffset_of_ofLocal? {l : LocalDateTime} {o : Offset} {t : DateTime}
    (h : ofLocal? l o = some t) :
    t.offset = o ∧ t.inOwnOffset = l ∧ t.utc.date.inRange = true := by
  unfold ofLocal? at h
  simp only at h
  split at h
  · rename_i hrange
    cases h
    have hback := LocalDateTime.shift_shift_neg l o.neg
    rw [Offset.neg_neg] at hback
    exact ⟨rfl, hback, hrange⟩
  · cases h

theorem ofLocal?_localIn {t : DateTime} (ht : t.utc.date.inRange = true) (o : Offset) :
    ofLocal? (t.localIn o) o = some ⟨t.utc, o⟩ := by
  have hback : (t.localIn o).shift o.neg = t.utc := LocalDateTime.shift_shift_neg t.utc o
  simp only [ofLocal?, hback, ht, if_true]

/-! ### What is read -/

/-- The instant lies in range, in UTC and in its own offset, where a leap second ends a minute. -/
structure Proper (t : DateTime) : Prop where
  utc_inRange : t.utc.date.inRange = true
  own_inRange : t.inOwnOffset.date.inRange = true
  leapEndsMinute : t.inOwnOffset.time.LeapEndsMinute

end DateTime

theorem Calendar.inRange_of_date? {s rest : List Char} {d : Date} (h : date? s = some (d, rest)) :
    d.inRange = true := by
  simp only [date?, Option.bind_eq_bind, Option.bind_eq_some_iff] at h
  obtain ⟨_, _, _, _, _, _, _, _, _, _, d', _, _, hguard, hd⟩ := h
  cases hd
  simpa [guard] using hguard

theorem TimeOfDay.leapEndsMinute_of_ofNumbers? {hour minute second nano : Nat} {t : TimeOfDay}
    (h : ofNumbers? hour minute second nano = some t) : t.LeapEndsMinute := by
  unfold ofNumbers? at h
  split at h
  · rename_i hnumbers
    cases h
    intro hleap
    -- only second 60 adds a full second to the nanoseconds
    have hsixty : second = 60 := by
      by_contra hne
      have hzero : second - 59 = 0 := by omega
      simp only [hzero, Nat.zero_mul] at hleap
      omega
    subst hsixty
    show (hour * 3600 + minute * 60 + min 60 59) % 60 = 59
    omega
  · cases h

theorem Calendar.leapEndsMinute_of_time? {s rest : List Char} {t : TimeOfDay}
    (h : time? s = some (t, rest)) : t.LeapEndsMinute := by
  simp only [time?, Option.bind_eq_bind, Option.bind_eq_some_iff] at h
  obtain ⟨_, _, _, _, _, _, _, _, _, _, _, _, t', ht', ht⟩ := h
  cases ht
  exact TimeOfDay.leapEndsMinute_of_ofNumbers? ht'

theorem Calendar.proper_of_localDateTime? {separator : Separator} {s rest : List Char}
    {t : LocalDateTime} (h : localDateTime? separator s = some (t, rest)) :
    t.date.inRange = true ∧ t.time.LeapEndsMinute := by
  simp only [localDateTime?, Option.bind_eq_bind, Option.bind_eq_some_iff] at h
  obtain ⟨⟨date, s₁⟩, hdate, s₂, hskip, ⟨time, s₃⟩, htime, ht⟩ := h
  cases ht
  exact ⟨inRange_of_date? hdate, leapEndsMinute_of_time? htime⟩

/-- What a literal says lies in range, and a leap second in it ends a minute. -/
def DateLiteral.Proper : DateLiteral → Prop
  | naive t => t.date.inRange = true ∧ t.time.LeapEndsMinute
  | aware t => t.Proper ∧ t.offset.WholeMinutes

namespace DateLiteral

variable {separator : Separator} {s : List Char} {l : DateLiteral}

theorem proper_of_readAware? (h : readAware? separator s = some l) : l.Proper := by
  simp only [readAware?, Option.bind_eq_bind, Option.bind_eq_some_iff] at h
  obtain ⟨⟨t, s'⟩, ht, o, ho, t', ht', hl⟩ := h
  cases hl
  obtain ⟨hdate, htime⟩ := proper_of_localDateTime? ht
  obtain ⟨hoffset, hown, hutc⟩ := DateTime.inOwnOffset_of_ofLocal? ht'
  refine ⟨⟨hutc, ?_, ?_⟩, ?_⟩
  · rw [hown]
    exact hdate
  · rw [hown]
    exact htime
  · rw [hoffset]
    exact wholeMinutes_of_offset? ho

theorem proper_of_readNaive? (h : readNaive? separator s = some l) : l.Proper := by
  simp only [readNaive?, Option.bind_eq_bind, Option.bind_eq_some_iff] at h
  obtain ⟨⟨t, s'⟩, ht, _, _, hl⟩ := h
  cases hl
  exact proper_of_localDateTime? ht

theorem proper_of_readDay? (h : readDay? s = some l) : l.Proper := by
  simp only [readDay?, Option.bind_eq_bind, Option.bind_eq_some_iff] at h
  obtain ⟨⟨date, s'⟩, hdate, _, _, hl⟩ := h
  cases hl
  have hmidnight : TimeOfDay.midnight.LeapEndsMinute := by
    intro hleap
    cases hleap
  exact ⟨inRange_of_date? hdate, hmidnight⟩

theorem proper_of_readChars? (h : readChars? s = some l) : l.Proper := by
  simp only [readChars?, Option.orElse_eq_some] at h
  rcases h with h | ⟨_, h | ⟨_, h | ⟨_, h | ⟨_, h⟩⟩⟩⟩
  · exact proper_of_readAware? h
  · exact proper_of_readAware? h
  · exact proper_of_readNaive? h
  · exact proper_of_readNaive? h
  · exact proper_of_readDay? h

end DateLiteral

namespace DateTime

variable {t : DateTime} {o zone : Offset}

theorem proper_of_ofLocal? {l : LocalDateTime} (h : ofLocal? l o = some t)
    (hdate : l.date.inRange = true) (htime : l.time.LeapEndsMinute) : t.Proper := by
  obtain ⟨_, hown, hutc⟩ := inOwnOffset_of_ofLocal? h
  refine ⟨hutc, ?_, ?_⟩
  · rw [hown]
    exact hdate
  · rw [hown]
    exact htime

/-- Every instant that is read is proper. -/
theorem proper_of_read? {s : String} (h : read? s zone = some t) : t.Proper := by
  unfold read? at h
  split at h
  · rename_i hs
    cases h
    exact (DateLiteral.proper_of_readChars? hs).1
  · rename_i l hs
    obtain ⟨hdate, htime⟩ := DateLiteral.proper_of_readChars? hs
    exact proper_of_ofLocal? h hdate htime
  · cases h

/-- A reader in an offset of whole minutes reads no others. -/
theorem wholeMinutes_of_read? {s : String} (hzone : zone.WholeMinutes)
    (h : read? s zone = some t) : t.offset.WholeMinutes := by
  unfold read? at h
  split at h
  · rename_i hs
    cases h
    exact (DateLiteral.proper_of_readChars? hs).2
  · rw [(inOwnOffset_of_ofLocal? h).1]
    exact hzone
  · cases h

/-- What whole minutes lie between two offsets does not move a leap second within its minute. -/
theorem leapEndsMinute_localIn (ht : t.Proper) (hown : t.offset.WholeMinutes)
    (ho : o.WholeMinutes) : (t.localIn o).time.LeapEndsMinute :=
  (LocalDateTime.leapEndsMinute_shift_iff ho).mpr
    ((LocalDateTime.leapEndsMinute_shift_iff hown).mp ht.leapEndsMinute)

theorem dateTime_eq_ok_iff {s : String} : Literal.dateTime s zone = .ok t ↔ read? s zone = some t := by
  unfold Literal.dateTime
  cases read? s zone <;> simp

/-! ### In its own offset -/

/-- **An instant is read from its text in its own offset**, and with it the offset, whatever the
offset of the reader. -/
theorem read?_rfc3339 (ht : t.Proper) (ho : t.offset.WholeMinutes) (zone : Offset) :
    read? t.rfc3339 zone = some t := by
  have hlocal : localDateTime? .letter (t.inOwnOffset.writeIso ++ t.offset.write) =
      some (t.inOwnOffset, t.offset.write) :=
    localDateTime?_letter ht.own_inRange ht.leapEndsMinute (EndsTime.write t.offset)
  have hinstant : ofLocal? t.inOwnOffset t.offset = some t := ofLocal?_localIn ht.utc_inRange _
  have haware : DateLiteral.readAware? .letter (t.inOwnOffset.writeIso ++ t.offset.write) =
      some (.aware t) := by
    simp [DateLiteral.readAware?, hlocal, offset?_write ho, hinstant]
  simp [read?, DateLiteral.read?, rfc3339, DateLiteral.readChars?, haware]

end DateTime

/-! ### In another offset -/

/-- The time without its fraction of a second. -/
def TimeOfDay.cut (t : TimeOfDay) : TimeOfDay :=
  ⟨t.second, t.nano / nanosPerSecond * nanosPerSecond, t.second_lt,
    Nat.lt_of_le_of_lt (Nat.div_mul_le_self t.nano nanosPerSecond) t.nano_lt⟩

/-- The date and time without its fraction of a second. -/
def LocalDateTime.cut (t : LocalDateTime) : LocalDateTime := ⟨t.date, t.time.cut⟩

/-- The instant without its fraction of a second, in another offset. -/
def DateTime.cutTo (t : DateTime) (o : Offset) : DateTime := ⟨t.utc.cut, o⟩

/-- The instant keeps its second, a leap second too: less than a second is cut off. -/
theorem DateTime.orderKey_cutTo (t : DateTime) (o : Offset) :
    (t.cutTo o).orderKey ≤ t.orderKey ∧ t.orderKey < (t.cutTo o).orderKey + nanosPerSecond := by
  have hle : t.utc.time.nano / nanosPerSecond * nanosPerSecond ≤ t.utc.time.nano :=
    Nat.div_mul_le_self _ _
  have hlt : t.utc.time.nano < t.utc.time.nano / nanosPerSecond * nanosPerSecond + nanosPerSecond :=
    Nat.lt_div_mul_add (by decide)
  have hkey : t.orderKey =
      t.utc.secondNumber * (2 * nanosPerSecond : Nat) + t.utc.time.nano := rfl
  have hcut : (t.cutTo o).orderKey = t.utc.secondNumber * (2 * nanosPerSecond : Nat) +
      (t.utc.time.nano / nanosPerSecond * nanosPerSecond : Nat) := rfl
  rw [hkey, hcut]
  omega

theorem TimeOfDay.leapEndsMinute_cut {t : TimeOfDay} (ht : t.LeapEndsMinute) :
    t.cut.LeapEndsMinute := by
  intro hleap
  have hle : t.nano / nanosPerSecond * nanosPerSecond ≤ t.nano := Nat.div_mul_le_self _ _
  exact ht (Nat.le_trans hleap hle)

theorem TimeOfDay.write_cut (t : TimeOfDay) : t.cut.write = t.write := by
  have hshown : t.cut.shownSecond = t.shownSecond := by
    simp [shownSecond, cut]
  rw [write, write, hshown]
  rfl

theorem TimeOfDay.writeFraction_cut (t : TimeOfDay) : t.cut.writeFraction = [] := by
  have hwhole : t.cut.nano % nanosPerSecond = 0 := Nat.mul_mod_left _ _
  unfold writeFraction
  rw [hwhole]
  rfl

namespace Calendar

theorem trimStart_write (t : TimeOfDay) : trimStart (' ' :: t.write) = t.write := by
  have hblank : isBlank ' ' = true := by decide
  rw [trimStart, List.dropWhile_cons_of_pos hblank, ← trimStart, TimeOfDay.write]
  simp only [List.append_assoc, trimStart_padded]

theorem localDateTime?_blanks {d : Date} {t : TimeOfDay} (hdate : d.inRange = true)
    (htime : t.LeapEndsMinute) :
    localDateTime? .blanks (d.write ++ ' ' :: t.write) = some (⟨d, t.cut⟩, []) := by
  have hend : EndsTime [] := nofun
  have hread : time? t.write = some (t.cut, []) := by
    have hcut := time?_write (TimeOfDay.leapEndsMinute_cut htime) hend
    rw [TimeOfDay.write_cut, TimeOfDay.writeFraction_cut, List.nil_append, List.append_nil] at hcut
    exact hcut
  simp [localDateTime?, date?_write hdate, Separator.skip?, trimStart_write, hread]

theorem localDateTime?_letter_blank {d : Date} (hdate : d.inRange = true) (rest : List Char) :
    localDateTime? .letter (d.write ++ ' ' :: rest) = none := by
  simp [localDateTime?, date?_write hdate, Separator.skip?, mark?]

end Calendar

namespace DateTime

variable {t : DateTime} {o : Offset}

/-- **An instant is read from its text in an offset by a reader in that offset**, but for the
fraction of its second. -/
theorem read?_displayIn (hutc : t.utc.date.inRange = true)
    (hdate : (t.localIn o).date.inRange = true) (htime : (t.localIn o).time.LeapEndsMinute) :
    read? (t.displayIn o) o = some (t.cutTo o) := by
  have hlocal := localDateTime?_blanks hdate htime
  have hletter (rest : List Char) := localDateTime?_letter_blank hdate rest
  -- neither form with an offset fits, nor the form with the letter
  have hread : DateLiteral.read? (t.displayIn o) = some (.naive (t.localIn o).cut) := by
    simp [DateLiteral.read?, displayIn, DateLiteral.readChars?, DateLiteral.readAware?,
      DateLiteral.readNaive?, hletter, hlocal, offset?, trimStart, LocalDateTime.cut]
  have hinstant : ofLocal? (t.localIn o).cut o = some (t.cutTo o) :=
    ofLocal?_localIn (t := t.cutTo o) hutc o
  simp only [read?, hread, hinstant]

end DateTime

end RecordQuery
