import RecordQuery.Calendar.Date

/-!
# Dates with a time of day, and instants

A `LocalDateTime` is a date and a time of day without a time zone.  An `Offset` is a fixed time zone:
seconds east of UTC, less than a day.  A `DateTime` is an instant, kept as the date and time in UTC,
together with the offset in which it is shown.

Seconds may be leap seconds: the nanoseconds of a `TimeOfDay` then run on past a full second, from
`10 ^ 9`.  Moving to another offset (`LocalDateTime.shift`) moves the whole seconds and the date and
leaves the nanoseconds alone, so a leap second stays one; `LocalDateTime.shift_shift_neg` says that
moving there and back changes nothing.

Two instants are compared by `DateTime.orderKey` alone: the offset plays no part.
-/

namespace RecordQuery

/-- The number of seconds of a day. -/
abbrev secondsPerDay : Nat := 86400

/-- The number of nanoseconds of a second. -/
abbrev nanosPerSecond : Nat := 1000000000

/-- A time of day, leap seconds included. -/
structure TimeOfDay where
  /-- The whole seconds since midnight. -/
  second : Nat
  /-- The nanoseconds beyond them; `10 ^ 9` and more in a leap second. -/
  nano : Nat
  second_lt : second < secondsPerDay
  nano_lt : nano < 2 * nanosPerSecond
  deriving DecidableEq

/-- Midnight. -/
def TimeOfDay.midnight : TimeOfDay := ⟨0, 0, by decide, by decide⟩

/-- The time with these numbers; second 60 is the leap second after second 59. -/
def TimeOfDay.ofNumbers? (hour minute second nano : Nat) : Option TimeOfDay :=
  if h : (hour < 24 ∧ minute < 60) ∧ second ≤ 60 ∧ nano < nanosPerSecond then
    some ⟨hour * 3600 + minute * 60 + min second 59, (second - 59) * nanosPerSecond + nano,
      by simp only [secondsPerDay]; omega, by simp only [nanosPerSecond] at *; omega⟩
  else none

/-- A fixed time zone. -/
structure Offset where
  /-- Seconds east of UTC. -/
  seconds : Int
  gt : -secondsPerDay < seconds
  lt : seconds < secondsPerDay
  deriving DecidableEq

namespace Offset

/-- The offset of UTC. -/
def utc : Offset := ⟨0, by decide, by decide⟩

/-- The offset of this many seconds, if that is less than a day. -/
def ofSeconds? (seconds : Int) : Option Offset :=
  if h : -secondsPerDay < seconds ∧ seconds < secondsPerDay then some ⟨seconds, h.1, h.2⟩ else none

/-- The offset on the other side of UTC. -/
def neg (o : Offset) : Offset :=
  ⟨-o.seconds, by have := o.lt; omega, by have := o.gt; omega⟩

end Offset

/-- A date and a time of day, without a time zone. -/
structure LocalDateTime where
  date : Date
  time : TimeOfDay
  deriving DecidableEq

namespace LocalDateTime

/-- The day on which a time falls, counted in seconds from the midnight that begins `d`; the time
is less than a day away from `d`. -/
def dayAt (d : Date) (second : Int) : Date :=
  if second < 0 then d.previous else if second < secondsPerDay then d else d.next

/-- The date and time that clocks show which are ahead by an offset. -/
def shift (t : LocalDateTime) (o : Offset) : LocalDateTime :=
  let second := t.time.second + o.seconds
  ⟨dayAt t.date second,
    ⟨(second % secondsPerDay).toNat, t.time.nano,
      by simp only [secondsPerDay]; omega, t.time.nano_lt⟩⟩

/-- Seconds since the beginning of year zero. -/
def secondNumber (t : LocalDateTime) : Int := t.date.dayNumber * secondsPerDay + t.time.second

/-- Moving by an offset moves the count of seconds by as much. -/
theorem secondNumber_shift (t : LocalDateTime) (o : Offset) :
    (t.shift o).secondNumber = t.secondNumber + o.seconds := by
  have hgt := o.gt
  have hlt := o.lt
  have hs := t.time.second_lt
  simp only [secondsPerDay] at hgt hlt hs
  simp only [shift, dayAt, secondNumber, secondsPerDay]
  split
  · rw [Date.dayNumber_previous]
    omega
  · split
    · omega
    · rw [Date.dayNumber_next]
      omega

/-- Moving there and back changes nothing. -/
theorem shift_shift_neg (t : LocalDateTime) (o : Offset) : (t.shift o).shift o.neg = t := by
  have hgt := o.gt
  have hlt := o.lt
  have hs := t.time.second_lt
  simp only [secondsPerDay] at hgt hlt hs
  have hsecond : ((((t.time.second + o.seconds) % secondsPerDay).toNat : Int) + o.neg.seconds) %
      secondsPerDay = t.time.second := by
    simp only [secondsPerDay, Offset.neg]; omega
  have hdate : dayAt (dayAt t.date (t.time.second + o.seconds))
      (((t.time.second + o.seconds) % secondsPerDay).toNat + o.neg.seconds) = t.date := by
    by_cases h : (t.time.second : Int) + o.seconds < 0
    · rw [dayAt, if_neg (by simp only [secondsPerDay, Offset.neg]; omega),
        if_neg (by simp only [secondsPerDay, Offset.neg]; omega), dayAt, if_pos h,
        Date.next_previous]
    · by_cases h' : (t.time.second : Int) + o.seconds < secondsPerDay
      · rw [dayAt, if_neg (by simp only [secondsPerDay, Offset.neg] at *; omega),
          if_pos (by simp only [secondsPerDay, Offset.neg] at *; omega), dayAt, if_neg h, if_pos h']
      · rw [dayAt, if_pos (by simp only [secondsPerDay, Offset.neg] at *; omega), dayAt, if_neg h,
          if_neg h', Date.previous_next]
  simp only [shift, hsecond, hdate, Int.toNat_natCast]

end LocalDateTime

/-- The first year that instants reach back to. -/
def minYear : Int := -262143

/-- The last year of instants. -/
def maxYear : Int := 262142

/-- Whether a date lies in the range of instants. -/
def Date.inRange (d : Date) : Bool := minYear ≤ d.year && d.year ≤ maxYear

/-- An instant, and the offset in which it is shown. -/
structure DateTime where
  /-- The date and time in UTC. -/
  utc : LocalDateTime
  offset : Offset
  deriving DecidableEq

namespace DateTime

/-- The date and time that the instant has in an offset. -/
def localIn (t : DateTime) (o : Offset) : LocalDateTime := t.utc.shift o

/-- The date and time that the instant has in its own offset. -/
def inOwnOffset (t : DateTime) : LocalDateTime := t.localIn t.offset

/-- The instant at which clocks in an offset show a date and time; none if its date in UTC is out of
range. -/
def ofLocal? (t : LocalDateTime) (o : Offset) : Option DateTime :=
  let utc := t.shift o.neg
  if utc.date.inRange then some ⟨utc, o⟩ else none

/-- An integer that grows from instant to instant. -/
def orderKey (t : DateTime) : Int :=
  t.utc.secondNumber * (2 * nanosPerSecond : Nat) + t.utc.time.nano

/-- The order of two instants in time. -/
def compare (s t : DateTime) : Ordering := Ord.compare s.orderKey t.orderKey

end DateTime

end RecordQuery
