import RecordQuery.Json.Meaning
import RecordQuery.Lookup
import RecordQuery.Text.Blank
import RecordQuery.Text.Split

/-!
# Orderings

An ordering is a list of terms, the first of which matters most.  A term names a field, which may be
reached through relations, and may be descending, which a hyphen in front of it says.
`OrderTerm.parseAll` reads an ordering, either as terms with commas between them or as a JSON array
of them; blanks around terms do not count and empty terms are passed over.

Sorting (`stableSort`) is by insertion, from the back of what is already sorted, so that elements
that compare as equal stay in the order they were in.  `lexicographic` compares by one comparison
after the other.
-/

namespace RecordQuery

/-! ### Terms -/

/-- One term of an ordering. -/
structure OrderTerm where
  field : String
  descending : Bool
  deriving DecidableEq

namespace OrderTerm

/-- The fields to follow. -/
def path (t : OrderTerm) : List String := Text.segments t.field

/-- The text of a term. -/
def display (t : OrderTerm) : String := if t.descending then "-" ++ t.field else t.field

/-- Reads a term, blanks at its ends aside; the text is refused if no field remains. -/
def parse (s : String) : Except String OrderTerm :=
  let s := Text.trim s
  match s.toList with
  | [] => .error s
  | ['-'] => .error s
  | '-' :: field => .ok ⟨String.ofList field, true⟩
  | _ => .ok ⟨s, false⟩

/-- Reads every text that is not blank. -/
def parseEach (names : List String) : Except String (List OrderTerm) :=
  (names.filter fun n => !Text.isBlankText n).mapM parse

/-- The texts of a JSON array that holds nothing but strings. -/
def jsonNames? (s : String) : Option (List String) :=
  match Json.parse? s with
  | some (.array items) => items.mapM fun
    | .string name => some name
    | _ => none
  | _ => none

/-- Reads an ordering; what is refused is given back. -/
def parseAll (raw : String) : Except String (List OrderTerm) :=
  let s := Text.trim raw
  if s.toList.head? = some '[' && s.toList.getLast? = some ']' then
    match jsonNames? s with
    | some names => parseEach names
    | none => .error raw
  else parseEach (Text.splitOn ',' s)

end OrderTerm

/-! ### Sorting -/

/-- The comparison that asks one comparison after the other until one tells two elements apart. -/
def lexicographic {α : Type} : List (α → α → Ordering) → α → α → Ordering
  | [], _, _ => .eq
  | compare :: rest, a, b => (compare a b).then (lexicographic rest a b)

/-- A comparison the other way round, if asked for. -/
def directed {α : Type} (descending : Bool) (compare : α → α → Ordering) (a b : α) : Ordering :=
  if descending then (compare a b).swap else compare a b

/-- Puts an element into a list that is sorted from the largest down, behind everything that is
larger. -/
def insertFromBack {α : Type} (compare : α → α → Ordering) (a : α) : List α → List α
  | [] => [a]
  | b :: larger => if compare a b = .lt then b :: insertFromBack compare a larger else a :: b :: larger

/-- The list sorted by a comparison; what compares as equal stays in order. -/
def stableSort {α : Type} (compare : α → α → Ordering) (list : List α) : List α :=
  (list.foldl (fun sorted a => insertFromBack compare a sorted) []).reverse

end RecordQuery
