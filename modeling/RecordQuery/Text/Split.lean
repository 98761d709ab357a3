/-!
# Cutting texts at separators

`Text.splitOn sep s` cuts `s` at every `sep` and keeps empty pieces, so that a text with `n`
separators has `n + 1` pieces.  `Text.segments s` cuts at every double underscore, taken leftmost
first and without overlap, so `a___b` is `a` and `_b`.  Both are structural recursions over the
characters; `Text.join` puts pieces together again.
-/

namespace RecordQuery.Text

/-- Puts the character in front of the first piece. -/
def consHead (c : Char) : List (List Char) → List (List Char)
  | [] => [[c]]
  | piece :: pieces => (c :: piece) :: pieces

/-- The pieces of a text between the separators `sep`. -/
def splitChars (sep : Char) : List Char → List (List Char)
  | [] => [[]]
  | c :: rest => if c = sep then [] :: splitChars sep rest else consHead c (splitChars sep rest)

/-- The pieces of a text between double underscores. -/
def segmentChars : List Char → List (List Char)
  | [] => [[]]
  | '_' :: '_' :: rest => [] :: segmentChars rest
  | c :: rest => consHead c (segmentChars rest)

/-- The pieces of `s` between the separators `sep`, empty ones included. -/
def splitOn (sep : Char) (s : String) : List String :=
  (splitChars sep s.toList).map String.ofList

/-- The pieces of `s` between double underscores, empty ones included. -/
def segments (s : String) : List String :=
  (segmentChars s.toList).map String.ofList

/-- The texts one after the other, with `sep` between neighbours. -/
def join (sep : String) : List String → String
  | [] => ""
  | [s] => s
  | s :: rest => s ++ sep ++ join sep rest

/-- What follows `start`, if the text begins with it. -/
def stripStart? : List Char → List Char → Option (List Char)
  | [], text => some text
  | _ :: _, [] => none
  | a :: start, c :: text => if a = c then stripStart? start text else none

/-- Whether `part` stands somewhere in the text, without a gap. -/
def occursIn (part : List Char) : List Char → Bool
  | [] => part.isEmpty
  | c :: rest => (stripStart? part (c :: rest)).isSome || occursIn part rest

/-- Whether `part` stands somewhere in `s`. -/
def contains (s part : String) : Bool := occursIn part.toList s.toList

end RecordQuery.Text
