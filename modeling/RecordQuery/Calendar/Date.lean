/-!
# Dates of the Gregorian calendar

A `Date` is a year, a month and a day that exist, in the Gregorian calendar run forwards and
backwards without end; year zero precedes year one.  `Date.next` and `Date.previous` step by one
day and are inverse to each other (`previous_next`, `next_previous`), and `Date.dayNumber` counts
days, so that the next day has the next number (`dayNumber_next`).
-/

namespace RecordQuery

/-- Whether a year has a 29th of February. -/
def isLeapYear (year : Int) : Bool := year % 4 = 0 ∧ (year % 100 ≠ 0 ∨ year % 400 = 0)

/-- The number of days of a month. -/
def daysInMonth (year : Int) : Nat → Nat
  | 2 => if isLeapYear year then 29 else 28
  | 4 | 6 | 9 | 11 => 30
  | _ => 31

/-- A day of the Gregorian calendar. -/
structure Date where
  year : Int
  month : Nat
  day : Nat
  month_pos : 1 ≤ month
  month_le : month ≤ 12
  day_pos : 1 ≤ day
  day_le : day ≤ daysInMonth year month
  deriving DecidableEq

theorem daysInMonth_pos (year : Int) (month : Nat) : 1 ≤ daysInMonth year month := by
  unfold daysInMonth
  split
  · split <;> decide
  all_goals decide

namespace Date

/-- The day with these numbers, if there is one. -/
def ofNumbers? (year : Int) (month day : Nat) : Option Date :=
  if h : (1 ≤ month ∧ month ≤ 12) ∧ 1 ≤ day ∧ day ≤ daysInMonth year month then
    some ⟨year, month, day, h.1.1, h.1.2, h.2.1, h.2.2⟩
  else none

/-- The first day of a year. -/
def newYear (year : Int) : Date := ⟨year, 1, 1, by decide, by decide, by decide, daysInMonth_pos _ _⟩

/-- The last day of a year. -/
def newYearsEve (year : Int) : Date :=
  ⟨year, 12, 31, by decide, by decide, by decide, by simp [daysInMonth]⟩

/-- The day after. -/
def next (d : Date) : Date :=
  if hd : d.day + 1 ≤ daysInMonth d.year d.month then
    ⟨d.year, d.month, d.day + 1, d.month_pos, d.month_le, by omega, hd⟩
  else if hm : d.month + 1 ≤ 12 then
    ⟨d.year, d.month + 1, 1, by omega, hm, by decide, daysInMonth_pos _ _⟩
  else newYear (d.year + 1)

/-- The day before. -/
def previous (d : Date) : Date :=
  if hd : 2 ≤ d.day then
    ⟨d.year, d.month, d.day - 1, d.month_pos, d.month_le, by omega, by have := d.day_le; omega⟩
  else if hm : 2 ≤ d.month then
    ⟨d.year, d.month - 1, daysInMonth d.year (d.month - 1), by omega, by have := d.month_le; omega,
      daysInMonth_pos _ _, Nat.le_refl _⟩
  else newYearsEve (d.year - 1)

/-- The number of days of a year before a month. -/
def daysBeforeMonth (year : Int) : Nat → Nat
  | 0 | 1 => 0
  | month + 1 => daysBeforeMonth year month + daysInMonth year month

/-- The number of days from the first of January of year zero to that of another year. -/
def daysBeforeYear (year : Int) : Int :=
  365 * year + (year - 1) / 4 - (year - 1) / 100 + (year - 1) / 400 + 1

/-- The number of days from the first of January of year zero to this day. -/
def dayNumber (d : Date) : Int :=
  daysBeforeYear d.year + daysBeforeMonth d.year d.month + (d.day - 1 : Nat)

/-! ### Stepping by one day -/

theorem daysBeforeMonth_succ (year : Int) {month : Nat} (h : 1 ≤ month) :
    daysBeforeMonth year (month + 1) = daysBeforeMonth year month + daysInMonth year month := by
  match month with
  | m + 1 => rfl

theorem daysBeforeYear_succ (year : Int) :
    daysBeforeYear (year + 1) =
      daysBeforeYear year + daysBeforeMonth year 12 + daysInMonth year 12 := by
  have hlen : ((daysBeforeMonth year 12 + daysInMonth year 12 : Nat) : Int) =
      if isLeapYear year then 366 else 365 := by
    simp only [daysBeforeMonth, daysInMonth]
    split <;> rfl
  have hyear : daysBeforeYear (year + 1) =
      daysBeforeYear year + if isLeapYear year then 366 else 365 := by
    unfold daysBeforeYear isLeapYear
    simp only [decide_eq_true_eq]
    split <;> omega
  rw [hyear, ← hlen]
  omega

/-- The next day has the next number. -/
theorem dayNumber_next (d : Date) : d.next.dayNumber = d.dayNumber + 1 := by
  unfold next
  have hpos := d.day_pos
  have hle := d.day_le
  split
  · simp only [dayNumber]
    omega
  · rename_i hd
    split
    · simp only [dayNumber, daysBeforeMonth_succ d.year d.month_pos]
      omega
    · rename_i hm
      have hm12 : d.month = 12 := by have := d.month_le; omega
      simp only [dayNumber, newYear, daysBeforeYear_succ]
      rw [hm12] at hd hle ⊢
      simp only [daysBeforeMonth]
      omega

/-- The day before the day after is the day itself. -/
theorem previous_next (d : Date) : d.next.previous = d := by
  have hpos := d.day_pos
  have hle := d.day_le
  have hmpos := d.month_pos
  have hmle := d.month_le
  obtain ⟨year, month, day, h1, h2, h3, h4⟩ := d
  simp only at hpos hle hmpos hmle
  unfold next
  split
  · rename_i hd
    simp only at hd
    simp only [previous, dif_pos (show 2 ≤ day + 1 by omega), Nat.add_sub_cancel]
  · rename_i hd
    simp only at hd
    split
    · have hday : day = daysInMonth year month := by omega
      simp only [previous, dif_neg (show ¬ 2 ≤ 1 by decide),
        dif_pos (show 2 ≤ month + 1 by omega), Nat.add_sub_cancel, hday]
    · rename_i hm
      simp only at hm
      have hmonth : month = 12 := by omega
      subst hmonth
      have hday : day = 31 := by simp only [daysInMonth] at hd hle; omega
      subst hday
      simp [previous, newYear, newYearsEve]

/-- The day after the day before is the day itself. -/
theorem next_previous (d : Date) : d.previous.next = d := by
  have hpos := d.day_pos
  have hle := d.day_le
  have hmpos := d.month_pos
  have hmle := d.month_le
  obtain ⟨year, month, day, h1, h2, h3, h4⟩ := d
  simp only at hpos hle hmpos hmle
  unfold previous
  split
  · rename_i hd
    simp only at hd
    simp only [next, dif_pos (show day - 1 + 1 ≤ daysInMonth year month by omega)]
    congr 1
    omega
  · rename_i hd
    simp only at hd
    have hday : day = 1 := by omega
    subst hday
    split
    · rename_i hm
      simp only at hm
      have hshort : ¬ daysInMonth year (month - 1) + 1 ≤ daysInMonth year (month - 1) := by omega
      simp only [next, dif_neg hshort, dif_pos (show month - 1 + 1 ≤ 12 by omega)]
      congr 1
      omega
    · rename_i hm
      simp only at hm
      have hmonth : month = 1 := by omega
      subst hmonth
      simp [next, newYear, newYearsEve, daysInMonth]

/-- The day before has the number before. -/
theorem dayNumber_previous (d : Date) : d.previous.dayNumber = d.dayNumber - 1 := by
  have := dayNumber_next d.previous
  rw [next_previous] at this
  omega

end Date

end RecordQuery
