import RecordQuery.Calendar.DateTime
import RecordQuery.Text.Blank
import RecordQuery.Text.Digit
import RecordQuery.Width

/-!
# Reading dates and times

The literals are `2018-12-07` for a day, `2018-12-07T06:24:24` or `2018-12-07 06:24:24` for a time
on a day, with or without a fraction of a second, and the latter two followed by an offset such as
`Z`, `+08:00` or `+0800`.  A literal without an offset is naive and takes the offset of its reader;
one with an offset keeps it.

Reading is lenient.  Blanks may precede every number and the offset, numbers may have fewer digits
than usual, the blank between date and time may be any run of blanks, even an empty one, and the
colon of an offset any run of colons and blanks.  Second 60 is a leap second.  Digits of a fraction
beyond the ninth are passed over.

Every scanner takes what it reads from the front of the text and gives back the rest.
-/

namespace RecordQuery

/-! ### Scanners -/

namespace Calendar

open Text (digit?)

/-- Reads on in a number of which `value` has been read: at most `limit` more digits. -/
def moreDigits (value : Nat) : Nat → List Char → Nat × List Char
  | 0, s => (value, s)
  | _, [] => (value, [])
  | limit + 1, c :: rest =>
    match digit? c with
    | some d => moreDigits (value * 10 + d) limit rest
    | none => (value, c :: rest)

/-- A number of at least one digit and at most `limit + 1`. -/
def number? (limit : Nat) : List Char → Option (Nat × List Char)
  | [] => none
  | c :: rest => (digit? c).map fun d => moreDigits d limit rest

/-- A number of one or two digits, with blanks before it. -/
def twoDigits? (s : List Char) : Option (Nat × List Char) := number? 1 (Text.trimStart s)

/-- A year: up to four digits, or any number of digits after a sign. -/
def year? (s : List Char) : Option (Int × List Char) :=
  match Text.trimStart s with
  | '-' :: rest => (number? rest.length rest).map fun (n, rest) => (-(n : Int), rest)
  | '+' :: rest => (number? rest.length rest).map fun (n, rest) => ((n : Int), rest)
  | rest => (number? 3 rest).map fun (n, rest) => ((n : Int), rest)

/-- One given character. -/
def mark? (c : Char) : List Char → Option (List Char)
  | [] => none
  | d :: rest => if d = c then some rest else none

/-- A day: year, month and day with hyphens between them. -/
def date? (s : List Char) : Option (Date × List Char) := do
  let (year, s) ← year? s
  let s ← mark? '-' s
  let (month, s) ← twoDigits? s
  let s ← mark? '-' s
  let (day, s) ← twoDigits? s
  let date ← Date.ofNumbers? year month day
  guard date.inRange
  return (date, s)

/-- The digits of a fraction as nanoseconds: nine of them count. -/
def nanoDigits : Nat → List Char → Nat × List Char
  | _, [] => (0, [])
  | 0, c :: rest =>
    match digit? c with
    | some _ => nanoDigits 0 rest
    | none => (0, c :: rest)
  | places + 1, c :: rest =>
    match digit? c with
    | some d => let (n, rest) := nanoDigits places rest; (d * tenPow places + n, rest)
    | none => (0, c :: rest)

/-- A point and a fraction of a second, in nanoseconds; zero if there is no point. -/
def fraction? : List Char → Option (Nat × List Char)
  | '.' :: c :: rest => if (digit? c).isSome then some (nanoDigits 9 (c :: rest)) else none
  | ['.'] => none
  | rest => some (0, rest)

/-- A time of day: hour, minute and second with colons between them, and a fraction. -/
def time? (s : List Char) : Option (TimeOfDay × List Char) := do
  let (hour, s) ← twoDigits? s
  let s ← mark? ':' s
  let (minute, s) ← twoDigits? s
  let s ← mark? ':' s
  let (second, s) ← twoDigits? s
  let (nano, s) ← fraction? s
  let time ← TimeOfDay.ofNumbers? hour minute second nano
  return (time, s)

/-- What stands between a day and a time. -/
inductive Separator where
  /-- The letter `T`. -/
  | letter
  /-- Blanks, or nothing. -/
  | blanks
  deriving DecidableEq

/-- Passes over a separator. -/
def Separator.skip? : Separator → List Char → Option (List Char)
  | letter, s => mark? 'T' s
  | blanks, s => some (Text.trimStart s)

/-- A day and a time. -/
def localDateTime? (separator : Separator) (s : List Char) :
    Option (LocalDateTime × List Char) := do
  let (date, s) ← date? s
  let s ← separator.skip? s
  let (time, s) ← time? s
  return (⟨date, time⟩, s)

/-- Two digits, neither more nor less. -/
def pair? : List Char → Option (Nat × List Char)
  | a :: b :: rest => do return ((← digit? a) * 10 + (← digit? b), rest)
  | _ => none

/-- Whether a character may stand between the hours and the minutes of an offset. -/
def isColonOrBlank (c : Char) : Bool := c == ':' || Text.isBlank c

/-- The minutes of an offset: two digits below 60, or nothing at the end of the text. -/
def offsetMinutes? : List Char → Option Nat
  | [] => some 0
  | s => do
    let (minutes, rest) ← pair? s
    guard (rest.isEmpty && minutes < 60)
    return minutes

/-- The hours and minutes of an offset whose sign has been read, in seconds. -/
def offsetSeconds? (s : List Char) : Option Nat := do
  let (hours, s) ← pair? s
  let minutes ← offsetMinutes? (s.dropWhile isColonOrBlank)
  return hours * 3600 + minutes * 60

/-- An offset that takes up the rest of the text, with blanks before it: `Z` in either case, or a
sign, hours and minutes.  The minus sign may also be the mathematical one. -/
def offset? (s : List Char) : Option Offset :=
  match Text.trimStart s with
  | [] => none
  | c :: rest =>
    if c = 'Z' ∨ c = 'z' then if rest.isEmpty then some Offset.utc else none
    else if c = '+' then do Offset.ofSeconds? (← offsetSeconds? rest)
    else if c = '-' ∨ c = '\u2212' then do Offset.ofSeconds? (-(← offsetSeconds? rest : Nat))
    else none

end Calendar

/-! ### Literals -/

/-- What a date or time literal says. -/
inductive DateLiteral where
  /-- A date and time without an offset. -/
  | naive (value : LocalDateTime)
  /-- An instant with its offset. -/
  | aware (value : DateTime)
  deriving DecidableEq

namespace DateLiteral

open Calendar

/-- A day and a time with an offset. -/
def readAware? (separator : Separator) (s : List Char) : Option DateLiteral := do
  let (t, s) ← localDateTime? separator s
  let offset ← offset? s
  return aware (← DateTime.ofLocal? t offset)

/-- A day and a time without an offset. -/
def readNaive? (separator : Separator) (s : List Char) : Option DateLiteral := do
  let (t, s) ← localDateTime? separator s
  guard s.isEmpty
  return naive t

/-- A day alone: its first moment is meant. -/
def readDay? (s : List Char) : Option DateLiteral := do
  let (date, s) ← date? s
  guard s.isEmpty
  return naive ⟨date, TimeOfDay.midnight⟩

/-- Reads a literal: the forms with an offset first, then those without, then the day alone. -/
def readChars? (s : List Char) : Option DateLiteral :=
  readAware? .letter s <|> readAware? .blanks s <|> readNaive? .letter s <|> readNaive? .blanks s <|>
    readDay? s

/-- Reads a literal. -/
def read? (s : String) : Option DateLiteral := readChars? s.toList

end DateLiteral

/-- The instant that a literal means for a reader in an offset. -/
def DateTime.read? (s : String) (offset : Offset) : Option DateTime :=
  match DateLiteral.read? s with
  | some (.aware t) => some t
  | some (.naive t) => DateTime.ofLocal? t offset
  | none => none

/-- Reads a time zone: `UTC`, or an offset as it stands in literals. -/
def Offset.read? (s : String) : Option Offset :=
  if s = "UTC" ∨ s = "utc" then some Offset.utc else Calendar.offset? s.toList

end RecordQuery
