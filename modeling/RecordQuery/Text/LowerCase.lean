import RecordQuery.Text.CaseTable

/-!
# Lower-casing texts

`Text.lowerCase` puts a whole text into lower case, by the full mappings of Unicode.  Two characters
do not simply become one other.  The capital I with a dot becomes an i and a combining dot.  The
capital sigma becomes a final sigma at the end of a word: behind a letter and not in front of one,
where characters that stand aside (`isCaseIgnorable`) are passed over.
-/

namespace RecordQuery.Text

/-- The lower-case mapping of a character that has one and depends on nothing around it. -/
def lowerChar (c : Char) : Char :=
  match lowerShift? c.toNat lowerRanges with
  | some shift => Char.ofNat (c.toNat + shift).toNat
  | none => c

/-- Whether the first character that does not stand aside is a letter. -/
def meetsLetter : List Char → Bool
  | [] => false
  | c :: rest => if isCaseIgnorable c then meetsLetter rest else isCased c

/-- The lower-case text of what follows `before`, which is in reverse. -/
def lowerFrom (before : List Char) : List Char → List Char
  | [] => []
  | c :: rest =>
    let lowered :=
      if c = 'Σ' then [if meetsLetter before && !meetsLetter rest then 'ς' else 'σ']
      else if c = 'İ' then ['i', '\u0307']
      else [lowerChar c]
    lowered ++ lowerFrom (c :: before) rest

/-- The text in lower case. -/
def lowerCase (s : String) : String := String.ofList (lowerFrom [] s.toList)

example : lowerFrom [] "ΑΣ ΑΣΑ Σ".toList = "ας ασα σ".toList := by decide +kernel

end RecordQuery.Text
