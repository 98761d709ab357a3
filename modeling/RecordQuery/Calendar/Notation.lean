import RecordQuery.Calendar.DateTime
import RecordQuery.Text.Digit

/-!
# Writing dates and times

Years have four digits; one outside 0 to 9999 has a sign as well.  The fraction of a second has 3, 6
or 9 digits, as few as it needs, or is left out.  A leap second is second 60.  An offset is rounded
to whole minutes.

`DateTime.rfc3339` writes an instant in its own offset with all of that, `LocalDateTime.iso` a date
and time without an offset, and `DateTime.displayIn` the date and time in a given offset to the
second.
-/

namespace RecordQuery

/-- A number with at least `width` digits. -/
def padded (width n : Nat) : List Char :=
  let digits := Text.decimal n
  List.replicate (width - digits.length) '0' ++ digits

/-- A year: four digits, or a sign and at least four digits. -/
def writeYear (year : Int) : List Char :=
  if 0 ≤ year ∧ year ≤ 9999 then padded 4 year.toNat
  else (if year < 0 then '-' else '+') :: padded 4 year.natAbs

/-- Year, month and day. -/
def Date.write (d : Date) : List Char :=
  writeYear d.year ++ '-' :: padded 2 d.month ++ '-' :: padded 2 d.day

/-- The number that is shown for the second: 60 in the leap second at the end of a minute. -/
def TimeOfDay.shownSecond (t : TimeOfDay) : Nat := t.second % 60 + t.nano / nanosPerSecond

/-- Hour, minute and second. -/
def TimeOfDay.write (t : TimeOfDay) : List Char :=
  padded 2 (t.second / 3600) ++ ':' :: padded 2 (t.second / 60 % 60) ++ ':' ::
    padded 2 t.shownSecond

/-- The fraction of the second, with its point. -/
def TimeOfDay.writeFraction (t : TimeOfDay) : List Char :=
  let nano := t.nano % nanosPerSecond
  if nano = 0 then []
  else if nano % 1000000 = 0 then '.' :: padded 3 (nano / 1000000)
  else if nano % 1000 = 0 then '.' :: padded 6 (nano / 1000)
  else '.' :: padded 9 nano

/-- A date and time with the letter `T` between them and the fraction of the second. -/
def LocalDateTime.writeIso (t : LocalDateTime) : List Char :=
  t.date.write ++ 'T' :: t.time.write ++ t.time.writeFraction

/-- A sign, hours and minutes, to the nearest minute. -/
def Offset.write (o : Offset) : List Char :=
  let minutes := (o.seconds.natAbs + 30) / 60
  (if o.seconds < 0 then '-' else '+') :: padded 2 (minutes / 60) ++ ':' :: padded 2 (minutes % 60)

/-- A date and time with the letter `T` between them and the fraction of the second. -/
def LocalDateTime.iso (t : LocalDateTime) : String := String.ofList t.writeIso

/-- The date and time of an instant in its own offset, and the offset. -/
def DateTime.rfc3339 (t : DateTime) : String :=
  String.ofList (t.inOwnOffset.writeIso ++ t.offset.write)

/-- The date and time of an instant in an offset, to the second. -/
def DateTime.displayIn (t : DateTime) (o : Offset) : String :=
  let shown := t.localIn o
  String.ofList (shown.date.write ++ ' ' :: shown.time.write)

end RecordQuery
