import RecordQuery.Text.Blank

/-!
# Tokens of struct declarations

The declarations of `struct` types in Rust are read as trees of tokens (`Token.Tree`): names,
lifetimes, literals and punctuation, and groups in brackets of three kinds.  `Token.trees?` reads a
text.  Blanks and comments separate tokens and are dropped; a documentation comment stands for an
attribute `doc` with its text.

Literals keep the text in which they are written; `Token.stringValue?` decodes those that are strings.
-/

namespace RecordQuery.Declaration

/-- The kinds of brackets. -/
inductive Delimiter where
  | paren
  | bracket
  | brace
  deriving DecidableEq

namespace Delimiter

/-- The opening bracket. -/
def opening : Delimiter → Char
  | paren => '('
  | bracket => '['
  | brace => '\x7b'

/-- The closing bracket. -/
def closing : Delimiter → Char
  | paren => ')'
  | bracket => ']'
  | brace => '\x7d'

/-- Every kind. -/
def every : List Delimiter := [paren, bracket, brace]

end Delimiter

/-- A token; brackets are tokens of their own. -/
inductive Token where
  /-- A name, with the mark `r#` if it has one. -/
  | name (text : String)
  /-- A lifetime, without its quote. -/
  | lifetime (text : String)
  /-- A literal as it is written. -/
  | literal (text : String)
  /-- A punctuation character, and whether another one follows at once. -/
  | mark (c : Char) (joint : Bool)
  | opening (d : Delimiter)
  | closing (d : Delimiter)
  deriving DecidableEq

namespace Token

/-- Tokens with the contents of brackets put together. -/
inductive Tree where
  | leaf (token : Token)
  | group (d : Delimiter) (items : List Tree)

/-! ### Characters -/

/-- Whether a character separates tokens. -/
def isSpace (c : Char) : Bool := Text.isBlank c || c = '\u200e' || c = '\u200f'

/-- Whether a name may begin with a character.  What is neither ASCII nor blank is a letter wherever
a declaration admits it outside of literals and comments. -/
def startsName (c : Char) : Bool := c.isAlpha || c = '_' || (128 ≤ c.toNat && !isSpace c)

/-- Whether a name may go on with a character. -/
def continuesName (c : Char) : Bool := startsName c || c.isDigit

/-- Whether a character is punctuation. -/
def isMark (c : Char) : Bool := "~!@#$%^&*-=+|;:,<.>/?".toList.contains c

/-! ### Comments -/

/-- The text of a comment between `/*` and `*/`, in which further ones may be nested, and what
follows it. -/
def blockComment : Nat → List Char → List Char × List Char
  | _, [] => ([], [])
  | depth, '/' :: '*' :: rest =>
    let (text, rest) := blockComment (depth + 1) rest
    ('/' :: '*' :: text, rest)
  | 0, '*' :: '/' :: rest => ([], rest)
  | depth + 1, '*' :: '/' :: rest =>
    let (text, rest) := blockComment depth rest
    ('*' :: '/' :: text, rest)
  | depth, c :: rest =>
    let (text, rest) := blockComment depth rest
    (c :: text, rest)

/-- The attribute that a documentation comment stands for. -/
def docAttribute (inner : Bool) (text : List Char) : List Token :=
  mark '#' inner :: (if inner then [mark '!' false] else []) ++
    [opening .bracket, name "doc", mark '=' false,
      literal (String.ofList ('"' :: text.flatMap (fun c =>
        if c = '"' ∨ c = '\\' then ['\\', c] else [c]) ++ ['"'])),
      closing .bracket]

/-- The tokens of a comment to the end of its line, of which `text` follows the two slashes. -/
def lineCommentTokens : List Char → List Token
  | '/' :: '/' :: _ => []
  | '/' :: text => docAttribute false text
  | '!' :: text => docAttribute true text
  | _ => []

/-- The tokens of a comment between `/*` and `*/`. -/
def blockCommentTokens : List Char → List Token
  | '*' :: '*' :: _ => []
  | '*' :: c :: text => docAttribute false (c :: text)
  | '!' :: text => docAttribute true text
  | _ => []

/-! ### Literals -/

/-- The rest of a literal up to the quote that ends it, and what follows; a backslash takes the
character behind it along. -/
def quoted (quote : Char) : List Char → List Char × List Char
  | [] => ([], [])
  | '\\' :: c :: rest =>
    let (text, rest) := quoted quote rest
    ('\\' :: c :: text, rest)
  | c :: rest =>
    if c = quote then ([c], rest)
    else
      let (text, rest) := quoted quote rest
      (c :: text, rest)

/-- Whether a text begins with this many number signs. -/
def startsWithSigns : Nat → List Char → Bool
  | 0, _ => true
  | n + 1, '#' :: rest => startsWithSigns n rest
  | _, _ => false

/-- The rest of a raw literal up to a quote with as many number signs behind it, and what
follows. -/
def rawQuoted (signs : Nat) : List Char → List Char × List Char
  | [] => ([], [])
  | c :: rest =>
    if c = '"' && startsWithSigns signs rest then (c :: rest.take signs, rest.drop signs)
    else
      let (text, rest) := rawQuoted signs rest
      (c :: text, rest)

/-- The characters that a suffix of a literal or the rest of a name consists of. -/
def nameRest (s : List Char) : List Char × List Char := s.span continuesName

/-- The digits, letters and exponent of a number, and what follows. -/
def numberRest : Char → List Char → List Char × List Char
  | _, [] => ([], [])
  | before, c :: rest =>
    let goesOn :=
      continuesName c ||
        ((c = '+' || c = '-') && (before = 'e' || before = 'E')) ||
        (c = '.' && match rest with
          | d :: _ => d.isDigit
          | [] => false)
    if goesOn then
      let (text, rest) := numberRest c rest
      (c :: text, rest)
    else ([], c :: rest)

/-- Whether a text goes on with a literal between double quotes, with any number of number signs
before the first one. -/
def startsRaw (s : List Char) : Bool := (s.dropWhile (· = '#')).head? = some '"'

/-- A raw literal behind the letters in front of it. -/
def rawLiteral (start s : List Char) : Token × List Char :=
  let (signs, rest) := s.span (· = '#')
  let (text, rest) := rawQuoted signs.length (rest.drop 1)
  let (suffix, rest) := nameRest rest
  (literal (String.ofList (start ++ signs ++ '"' :: text ++ suffix)), rest)

/-- A literal between quotes behind the letters in front of it. -/
def quotedLiteral (start : List Char) (quote : Char) (s : List Char) : Token × List Char :=
  let (text, rest) := quoted quote s
  let (suffix, rest) := nameRest rest
  (literal (String.ofList (start ++ quote :: text ++ suffix)), rest)

/-- A name that begins with `c`, or a literal with letters in front. -/
def nameOrLiteral (c : Char) (rest : List Char) : Token × List Char :=
  let (more, after) := nameRest rest
  let word := c :: more
  match after with
  | '"' :: text =>
    if word = ['r'] ∨ word = ['b', 'r'] ∨ word = ['c', 'r'] then rawLiteral word after
    else if word = ['b'] ∨ word = ['c'] then quotedLiteral word '"' text
    else (name (String.ofList word), after)
  | '\'' :: text =>
    if word = ['b'] then quotedLiteral word '\'' text else (name (String.ofList word), after)
  | '#' :: text =>
    if (word = ['r'] ∨ word = ['b', 'r'] ∨ word = ['c', 'r']) ∧ startsRaw after then
      rawLiteral word after
    else if word = ['r'] then
      let (more, after) := nameRest text
      (name (String.ofList ('r' :: '#' :: more)), after)
    else (name (String.ofList word), after)
  | _ => (name (String.ofList word), after)

/-- A character literal or a lifetime, behind its quote. -/
def charOrLifetime : List Char → Token × List Char
  | '\\' :: rest => quotedLiteral [] '\'' ('\\' :: rest)
  | c :: '\'' :: rest => quotedLiteral [] '\'' (c :: '\'' :: rest)
  | rest => let (text, rest) := nameRest rest; (lifetime (String.ofList text), rest)

/-! ### Reading -/

/-- The tokens at the front of a text and what follows them; blanks and most comments have none. -/
def step? : List Char → Option (List Token × List Char)
  | [] => none
  | '/' :: '/' :: rest =>
    let (text, rest) := rest.span (· ≠ '\n')
    some (lineCommentTokens text, rest)
  | '/' :: '*' :: rest =>
    let (text, rest) := blockComment 0 rest
    some (blockCommentTokens text, rest)
  | c :: rest =>
    if isSpace c then some ([], rest)
    else if c = '"' then
      let (token, rest) := quotedLiteral [] '"' rest
      some ([token], rest)
    else if c = '\'' then
      let (token, rest) := charOrLifetime rest
      some ([token], rest)
    else if c.isDigit then
      let (text, rest) := numberRest c rest
      some ([literal (String.ofList (c :: text))], rest)
    else if startsName c then
      let (token, rest) := nameOrLiteral c rest
      some ([token], rest)
    else
      match Delimiter.every.find? (·.opening = c), Delimiter.every.find? (·.closing = c) with
      | some d, _ => some ([opening d], rest)
      | none, some d => some ([closing d], rest)
      | none, none =>
        if isMark c then some ([mark c (rest.head?.any isMark)], rest) else none

/-- The tokens of a text, in at most `fuel` steps. -/
def scan? : Nat → List Char → Option (List Token)
  | _, [] => some []
  | 0, _ :: _ => none
  | fuel + 1, c :: rest => do
    let (tokens, rest) ← step? (c :: rest)
    return tokens ++ (← scan? fuel rest)

/-- Puts the contents of brackets together.  `done` are the trees before in the innermost open
bracket, and `outer` the brackets around it with what is before them; all are in reverse. -/
def assemble? (done : List Tree) (outer : List (Delimiter × List Tree)) :
    List Token → Option (List Tree)
  | [] => if outer.isEmpty then some done.reverse else none
  | opening d :: rest => assemble? [] ((d, done) :: outer) rest
  | closing d :: rest =>
    match outer with
    | (e, before) :: outer =>
      if e = d then assemble? (.group d done.reverse :: before) outer rest else none
    | [] => none
  | token :: rest => assemble? (.leaf token :: done) outer rest

/-- Reads a text as trees of tokens.  Every step takes at least one character. -/
def trees? (text : String) : Option (List Tree) := do
  let s := text.toList
  assemble? [] [] (← scan? s.length s)

/-! ### The text of tokens -/

mutual

/-- The text of a tree, without blanks between its tokens. -/
def Tree.text : Tree → List Char
  | .leaf (name s) => s.toList
  | .leaf (lifetime s) => '\'' :: s.toList
  | .leaf (literal s) => s.toList
  | .leaf (mark c _) => [c]
  | .leaf (opening d) => [d.opening]
  | .leaf (closing d) => [d.closing]
  | .group d items => d.opening :: textAll items ++ [d.closing]

/-- The text of trees, without blanks between their tokens. -/
def textAll : List Tree → List Char
  | [] => []
  | t :: rest => t.text ++ textAll rest

end

/-! ### String literals -/

/-- The value of hexadecimal digits up to a closing brace, and what follows it; underscores are
passed over. -/
def hexInBraces? (value : Nat) : List Char → Option (Nat × List Char)
  | [] => none
  | c :: rest =>
    if c = '\x7d' then some (value, rest)
    else if c = '_' then hexInBraces? value rest
    else (hexDigit? c).bind fun d => hexInBraces? (value * 16 + d) rest
where
  /-- The value of a hexadecimal digit. -/
  hexDigit? (c : Char) : Option Nat :=
    let n := c.toNat
    if 48 ≤ n ∧ n ≤ 57 then some (n - 48)
    else if 65 ≤ n ∧ n ≤ 70 then some (n - 55)
    else if 97 ≤ n ∧ n ≤ 102 then some (n - 87)
    else none

/-- The character that a letter behind a backslash stands for. -/
def escape? (c : Char) : Option Char :=
  if c = 'n' then some '\n'
  else if c = 'r' then some '\r'
  else if c = 't' then some '\t'
  else if c = '0' then some '\x00'
  else if c = '\\' ∨ c = '\'' ∨ c = '"' then some c
  else none

/-- The characters that a string literal stands for, up to the quote that ends it.  A backslash at
the end of a line takes the blanks before the next character away. -/
def decode? : Nat → List Char → Option (List Char)
  | _, [] => none
  | 0, _ => none
  | _ + 1, '"' :: _ => some []
  | fuel + 1, '\\' :: 'x' :: a :: b :: rest => do
    let value := (← hexInBraces?.hexDigit? a) * 16 + (← hexInBraces?.hexDigit? b)
    return Char.ofNat value :: (← decode? fuel rest)
  | fuel + 1, '\\' :: 'u' :: '\x7b' :: rest => do
    let (value, rest) ← hexInBraces? 0 rest
    return Char.ofNat value :: (← decode? fuel rest)
  | fuel + 1, '\\' :: '\n' :: rest => decode? fuel (skipLineStart rest)
  | fuel + 1, '\\' :: '\r' :: '\n' :: rest => decode? fuel (skipLineStart rest)
  | fuel + 1, '\\' :: c :: rest => do return (← escape? c) :: (← decode? fuel rest)
  | fuel + 1, '\r' :: '\n' :: rest => do return '\n' :: (← decode? fuel rest)
  | fuel + 1, c :: rest => do return c :: (← decode? fuel rest)
where
  /-- The text without the blanks that a line begins with. -/
  skipLineStart (s : List Char) : List Char :=
    s.dropWhile fun c => c = ' ' || c = '\t' || c = '\n' || c = '\r'

/-- The value of a literal that is a string. -/
def stringValue? (text : String) : Option String :=
  match text.toList with
  | '"' :: rest => (decode? (rest.length + 1) rest).map String.ofList
  | 'r' :: rest =>
    let (signs, rest) := rest.span (· = '#')
    match rest with
    | '"' :: rest =>
      let (found, _) := rawQuoted signs.length rest
      some (String.ofList (found.take (found.length - signs.length - 1)))
    | _ => none
  | _ => none

end Token

end RecordQuery.Declaration
